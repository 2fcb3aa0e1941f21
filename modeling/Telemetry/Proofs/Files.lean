import Telemetry.Files

/-!
# What the file operations do

Operations on a tree of files, stated by what a place holds afterwards. `Files.Extends` says that
nothing was lost or changed; paths then lead where they led before, and what could be read can
still be read. Making sure that a file exists only ever extends the tree, by directories and by the
one empty file; appending changes the content of one place.
-/

namespace Telemetry.Files

variable {fs fs' : Files} {path : String}

/-! ## One place -/

/-- The place needs no entry: it is the current directory, the root, or above them. -/
def IsGiven (place : Place) : Prop := (place.all fun name ↦ name = ".." || name = "/") = true

theorem at?_of_isGiven (fs : Files) {place : Place} (h : IsGiven place) :
    fs.at? place = some .directory := if_pos h

theorem at?_of_not_isGiven (fs : Files) {place : Place} (h : ¬ IsGiven place) :
    fs.at? place = Keyed.get? fs.entries place := if_neg h

theorem at?_put_of_ne (fs : Files) {place other : Place} (entry : Entry) (h : place ≠ other) :
    (fs.put place entry).at? other = fs.at? other := by
  by_cases hgiven : IsGiven other
  · rw [at?_of_isGiven _ hgiven, at?_of_isGiven _ hgiven]
  · rw [at?_of_not_isGiven _ hgiven, at?_of_not_isGiven _ hgiven, put, Keyed.get?_put, if_neg h]

theorem at?_put_self {place : Place} (entry : Entry) (h : fs.at? place ≠ some .directory) :
    (fs.put place entry).at? place = some entry := by
  have hgiven : ¬ IsGiven place := fun hgiven ↦ h (at?_of_isGiven fs hgiven)
  rw [at?_of_not_isGiven _ hgiven, put, Keyed.get?_put, if_pos rfl]

/-! ## Extending a tree -/

/-- Every place that holds something holds the same in the other tree. -/
def Extends (fs fs' : Files) : Prop :=
  ∀ place entry, fs.at? place = some entry → fs'.at? place = some entry

theorem Extends.refl (fs : Files) : Extends fs fs := fun _ _ h ↦ h

theorem Extends.trans {fs₁ fs₂ fs₃ : Files} (h₁ : Extends fs₁ fs₂) (h₂ : Extends fs₂ fs₃) :
    Extends fs₁ fs₃ := fun place entry h ↦ h₂ place entry (h₁ place entry h)

theorem extends_put {place : Place} (entry : Entry) (h : fs.at? place = none) :
    Extends fs (fs.put place entry) := by
  intro other entry' hother
  have hne : place ≠ other := by
    rintro rfl
    rw [h] at hother
    exact absurd hother nofun
  rw [at?_put_of_ne fs entry hne]
  exact hother

/-- Directories stay. -/
def KeepsDirectories (fs fs' : Files) : Prop :=
  ∀ place, fs.at? place = some .directory → fs'.at? place = some .directory

theorem Extends.keepsDirectories (h : Extends fs fs') : KeepsDirectories fs fs' :=
  fun place ↦ h place .directory

theorem keepsDirectories_put {place : Place} (entry : Entry)
    (h : fs.at? place ≠ some .directory) : KeepsDirectories fs (fs.put place entry) := by
  intro other hother
  have hne : place ≠ other := by
    rintro rfl
    exact h hother
  rw [at?_put_of_ne fs entry hne]
  exact hother

/-! ## Following a path -/

/-- One step of a walk that gets to its end. -/
theorem walk_cons_eq_ok {place target : Place} {name : String} {rest : List String} :
    fs.walk place (name :: rest) = .ok target ↔
      fs.at? place = some .directory ∧
        if leadsOn name then
          (name ≠ ".." && name.utf8ByteSize > 255) = false ∧
            fs.walk (follow place name) rest = .ok target
        else fs.walk place rest = .ok target := by
  rw [walk]
  cases fs.at? place with
  | none => exact ⟨nofun, fun h ↦ absurd h.1 nofun⟩
  | some entry =>
    cases entry with
    | file content => exact ⟨nofun, fun h ↦ absurd h.1 nofun⟩
    | directory =>
      by_cases hname : leadsOn name
      · rw [if_pos hname, if_pos hname]
        cases (name ≠ ".." && name.utf8ByteSize > 255) with
        | false => simp
        | true => simp
      · simp [hname]

theorem walk_mono (hkeep : KeepsDirectories fs fs') {place target : Place} {names : List String}
    (h : fs.walk place names = .ok target) : fs'.walk place names = .ok target := by
  induction names generalizing place with
  | nil => exact h
  | cons name rest ih =>
    rw [walk_cons_eq_ok] at h ⊢
    obtain ⟨hat, h⟩ := h
    refine ⟨hkeep place hat, ?_⟩
    by_cases hname : leadsOn name
    · rw [if_pos hname] at h ⊢
      exact ⟨h.1, ih h.2⟩
    · rw [if_neg hname] at h ⊢
      exact ih h

/-- A walk ends where its names lead. -/
theorem walk_eq {place target : Place} {names : List String}
    (h : fs.walk place names = .ok target) :
    target = (names.filter leadsOn).foldl follow place := by
  induction names generalizing place with
  | nil => exact (Except.ok.inj h).symm
  | cons name rest ih =>
    obtain ⟨-, h⟩ := walk_cons_eq_ok.1 h
    by_cases hname : leadsOn name
    · rw [if_pos hname] at h
      rw [List.filter_cons_of_pos hname, List.foldl_cons]
      exact ih h.2
    · rw [if_neg hname] at h
      rw [List.filter_cons_of_neg hname]
      exact ih h

/-- What a path leads to is found by walking, and by walking alone in every other tree. -/
theorem place_eq_walk {target : Place} (h : fs.place path = .ok target) (fs' : Files) :
    fs'.place path = fs'.walk (origin path).1 (origin path).2 := by
  rw [place] at h ⊢
  -- Whatever is refused before the walk is refused for the path alone.
  by_cases hempty : path.isEmpty = true
  · rw [if_pos hempty] at h
    exact absurd h nofun
  · rw [if_neg hempty] at h ⊢
    by_cases hzero : path.toList.contains (Char.ofNat 0) = true
    · rw [if_pos hzero] at h
      exact absurd h nofun
    · rw [if_neg hzero] at h ⊢
      by_cases hlong : path.utf8ByteSize ≥ 4096
      · rw [if_pos hlong] at h
        exact absurd h nofun
      · rw [if_neg hlong]

theorem place_mono (hkeep : KeepsDirectories fs fs') {target : Place}
    (h : fs.place path = .ok target) : fs'.place path = .ok target := by
  rw [place_eq_walk h fs']
  rw [place_eq_walk h fs] at h
  exact walk_mono hkeep h

/-- A path leads to the place that it names, if it leads anywhere. -/
theorem place_eq {target : Place} (h : fs.place path = .ok target) : target = namedPlace path := by
  rw [place_eq_walk h fs] at h
  exact walk_eq h

/-! ## Reading and appending -/

theorem read_of_place {e : FileError} (h : fs.place path = .error e) :
    fs.read path = .error e := by
  rw [read, h]
  rfl

theorem read_of_at? (h : fs.place path = .ok (namedPlace path)) :
    fs.read path = .error .notFound ∧ fs.at? (namedPlace path) = none ∨
      fs.read path = .error .isDirectory ∧ fs.at? (namedPlace path) = some .directory ∨
      ∃ content, fs.read path = .ok content ∧
        fs.at? (namedPlace path) = some (.file content) := by
  simp only [read, h, bind, Except.bind]
  rcases fs.at? (namedPlace path) with - | content | -
  · exact .inl ⟨rfl, rfl⟩
  · exact .inr (.inr ⟨content, rfl, rfl⟩)
  · exact .inr (.inl ⟨rfl, rfl⟩)

theorem read_eq_ok {content : List UInt8} : fs.read path = .ok content ↔
    fs.place path = .ok (namedPlace path) ∧ fs.at? (namedPlace path) = some (.file content) := by
  cases hplace : fs.place path with
  | error e =>
    rw [read_of_place hplace]
    simp
  | ok target =>
    obtain rfl := place_eq hplace
    rcases read_of_at? hplace with ⟨hread, hat⟩ | ⟨hread, hat⟩ | ⟨old, hread, hat⟩
    · rw [hread, hat]
      simp
    · rw [hread, hat]
      simp
    · rw [hread, hat]
      simp

theorem Extends.read (h : Extends fs fs') {content : List UInt8}
    (hread : fs.read path = .ok content) : fs'.read path = .ok content := by
  obtain ⟨hplace, hat⟩ := read_eq_ok.1 hread
  exact read_eq_ok.2 ⟨place_mono h.keepsDirectories hplace, h _ _ hat⟩

/-- Bytes are appended to a file that can be read. -/
theorem append_of_read {content : List UInt8} (h : fs.read path = .ok content)
    (bytes : List UInt8) :
    fs.append path bytes = .ok (fs.put (namedPlace path) (.file (content ++ bytes))) := by
  obtain ⟨hplace, hat⟩ := read_eq_ok.1 h
  simp only [append, hplace, bind, Except.bind, hat]
  rfl

/-- What can be appended to is a file, and its content grows. -/
theorem append_cases {bytes : List UInt8} (h : fs.append path bytes = .ok fs') :
    ∃ content, fs.read path = .ok content ∧
      fs' = fs.put (namedPlace path) (.file (content ++ bytes)) := by
  cases hplace : fs.place path with
  | error e =>
    simp only [append, hplace, bind, Except.bind] at h
    cases h
  | ok target =>
    obtain rfl := place_eq hplace
    simp only [append, hplace, bind, Except.bind] at h
    split at h
    · cases h
    · cases h
    · next content hat => exact ⟨content, read_eq_ok.2 ⟨hplace, hat⟩, (Except.ok.inj h).symm⟩

theorem read_put {old content : List UInt8} (h : fs.read path = .ok old) :
    (fs.put (namedPlace path) (.file content)).read path = .ok content := by
  obtain ⟨hplace, hat⟩ := read_eq_ok.1 h
  have hfile : fs.at? (namedPlace path) ≠ some .directory := by rw [hat]; nofun
  exact read_eq_ok.2 ⟨place_mono (keepsDirectories_put _ hfile) hplace, at?_put_self _ hfile⟩

/-! ## Making sure of a file -/

/-- Every file was there before. -/
def AddsNoFile (fs fs' : Files) : Prop :=
  ∀ place content, fs'.at? place = some (.file content) → fs.at? place = some (.file content)

theorem makeDirectory_spec {place : Place} {isLast : Bool}
    (h : fs.makeDirectory place isLast = .ok fs') : Extends fs fs' ∧ AddsNoFile fs fs' := by
  rw [makeDirectory] at h
  cases hat : fs.at? place with
  | some entry =>
    rw [hat] at h
    cases entry with
    | directory =>
      obtain rfl := Except.ok.inj h
      exact ⟨Extends.refl fs, fun _ _ h ↦ h⟩
    | file content => exact absurd h nofun
  | none =>
    rw [hat] at h
    dsimp only at h
    split at h
    · exact absurd h nofun
    · obtain rfl := Except.ok.inj h
      refine ⟨extends_put _ hat, fun other content hother ↦ ?_⟩
      by_cases heq : place = other
      · have hnone : fs.at? place ≠ some .directory := by rw [hat]; nofun
        rw [← heq, at?_put_self .directory hnone] at hother
        exact absurd hother nofun
      · rwa [at?_put_of_ne _ _ heq] at hother

theorem makeDirectories_spec (fs : Files) (place : Place) (names : List String) :
    Extends fs (fs.makeDirectories place names).2 ∧
      AddsNoFile fs (fs.makeDirectories place names).2 := by
  induction names generalizing fs place with
  | nil => exact ⟨Extends.refl fs, fun _ _ h ↦ h⟩
  | cons name rest ih =>
    rw [makeDirectories]
    cases h : fs.makeDirectory (follow place name) rest.isEmpty with
    | error e => exact ⟨Extends.refl fs, fun _ _ h ↦ h⟩
    | ok fs₁ =>
      obtain ⟨hext, hadds⟩ := makeDirectory_spec h
      obtain ⟨hext', hadds'⟩ := ih fs₁ (follow place name)
      exact ⟨hext.trans hext', fun other content hother ↦ hadds _ _ (hadds' _ _ hother)⟩

theorem makeParents_spec (fs : Files) (path : String) :
    Extends fs (fs.makeParents path).2 ∧ AddsNoFile fs (fs.makeParents path).2 := by
  rw [makeParents]
  split
  · exact ⟨Extends.refl fs, fun _ _ h ↦ h⟩
  · exact makeDirectories_spec fs _ _

/-- Nothing is lost, and no file is new but an empty one at the end of the path. -/
structure AddsAtMostEmpty (fs fs' : Files) (path : String) : Prop where
  keeps : Extends fs fs'
  file_cases : ∀ place content, fs'.at? place = some (.file content) →
    fs.at? place = some (.file content) ∨
      place = namedPlace path ∧ content = [] ∧ fs'.read path = .ok []

theorem AddsAtMostEmpty.refl (fs : Files) (path : String) : AddsAtMostEmpty fs fs path :=
  ⟨Extends.refl fs, fun _ _ h ↦ .inl h⟩

theorem touch_cases (fs : Files) (path : String) :
    (fs.touch path).2 = fs ∨ ∃ target, fs.place path = .ok target ∧ fs.at? target = none ∧
      (fs.touch path).2 = fs.put target (.file []) := by
  rw [touch]
  split
  · split
    · exact .inl rfl
    · exact .inl rfl
  · cases hplace : fs.place path with
    | error e => exact .inl rfl
    | ok target =>
      dsimp only
      cases hat : fs.at? target with
      | none => exact .inr ⟨target, rfl, hat, rfl⟩
      | some entry =>
        cases entry with
        | file content => exact .inl rfl
        | directory => exact .inl rfl

theorem addsAtMostEmpty_touch (fs : Files) (path : String) :
    AddsAtMostEmpty fs (fs.touch path).2 path := by
  rcases touch_cases fs path with h | ⟨target, hplace, hat, h⟩
  · rw [h]
    exact AddsAtMostEmpty.refl fs path
  · rw [h]
    have hnone : fs.at? target ≠ some .directory := by rw [hat]; nofun
    have hself := at?_put_self (.file []) hnone
    refine ⟨extends_put _ hat, fun place content hplaced ↦ ?_⟩
    by_cases heq : target = place
    · -- This is the new file, and it is where the path leads.
      rw [← heq, hself] at hplaced
      rw [← heq, ← place_eq hplace]
      refine .inr ⟨rfl, (Entry.file.inj (Option.some.inj hplaced)).symm, read_eq_ok.2 ?_⟩
      rw [← place_eq hplace]
      exact ⟨place_mono (keepsDirectories_put _ hnone) hplace, hself⟩
    · rw [at?_put_of_ne _ _ heq] at hplaced
      exact .inl hplaced

/-- Making sure of a file loses nothing, and the one file that it may add is empty. -/
theorem addsAtMostEmpty_ensure (fs : Files) (path : String) :
    AddsAtMostEmpty fs (fs.ensure path).2 path := by
  rw [ensure]
  by_cases hholds : fs.holds path = true
  · rw [if_pos hholds]
    exact AddsAtMostEmpty.refl fs path
  · rw [if_neg hholds]
    obtain ⟨hkeeps, hadds⟩ := makeParents_spec fs path
    rcases h : fs.makeParents path with ⟨result, fs₁⟩
    rw [h] at hkeeps hadds
    cases result with
    | error e => exact ⟨hkeeps, fun place content h ↦ .inl (hadds place content h)⟩
    | ok _ =>
      obtain ⟨hkeeps', htouch⟩ := addsAtMostEmpty_touch fs₁ path
      refine ⟨hkeeps.trans hkeeps', fun place content h ↦ ?_⟩
      rcases htouch place content h with h | h
      · exact .inl (hadds place content h)
      · exact .inr h

/-! ## Other files -/

/-- A place holds the same file as before, or none as before. -/
def KeepsFileAt (place : Place) (fs fs' : Files) : Prop :=
  ∀ content, fs'.at? place = some (.file content) ↔ fs.at? place = some (.file content)

theorem KeepsFileAt.refl (place : Place) (fs : Files) : KeepsFileAt place fs fs :=
  fun _ ↦ Iff.rfl

theorem KeepsFileAt.trans {place : Place} {fs₁ fs₂ fs₃ : Files} (h₁ : KeepsFileAt place fs₁ fs₂)
    (h₂ : KeepsFileAt place fs₂ fs₃) : KeepsFileAt place fs₁ fs₃ :=
  fun content ↦ (h₂ content).trans (h₁ content)

theorem AddsAtMostEmpty.keepsFileAt (h : AddsAtMostEmpty fs fs' path) {place : Place}
    (hne : place ≠ namedPlace path) : KeepsFileAt place fs fs' :=
  fun content ↦ ⟨fun hfile ↦ (h.file_cases place content hfile).resolve_right
    fun hnew ↦ hne hnew.1, h.keeps place (.file content)⟩

/-- Appending changes the file at the end of the path. -/
theorem keepsFileAt_append {bytes : List UInt8} (h : fs.append path bytes = .ok fs')
    {place : Place} (hne : place ≠ namedPlace path) : KeepsFileAt place fs fs' := by
  obtain ⟨content, -, rfl⟩ := append_cases h
  intro content'
  rw [at?_put_of_ne fs _ (Ne.symm hne)]

end Telemetry.Files
