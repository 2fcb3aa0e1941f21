import Telemetry.Proofs.Files
import Telemetry.Proofs.Text.Search

/-!
# Files that have nothing to do with each other

Two paths are apart when neither names a place on the way of the other (`Files.Apart`). Making sure
of the file of one path and appending to it then leaves the other path with what it led to: its file
has the same content, and making sure of it and reading it gives the same (`Alike.read_ensure`).

## What another path can notice

Two trees are `Alike` to a path when they have the same files on the way of the path and the same at
its end. Only directories may differ, and only above the file: whoever makes sure of the file makes
the ones that are missing, so nobody can tell afterwards. Nothing less would do, since a path that
goes through a directory and back again leads nowhere before the directory is made.
-/

namespace Telemetry.Files

variable {fs fs' : Files} {path other : String}

/-! ## The way of a path -/

/-- The places that names lead through, from a place to where they end. -/
def along (place : Place) : List String → List Place
  | [] => [place]
  | name :: rest => place :: along (follow place name) rest

/-- The places on the way of a path, from where it begins to where it ends. -/
def way (path : String) : List Place := along (origin path).1 (names path)

theorem mem_along_self (place : Place) (names : List String) : place ∈ along place names := by
  cases names with
  | nil => exact List.mem_singleton_self place
  | cons name rest => exact List.mem_cons_self

theorem foldl_mem_along (place : Place) (names : List String) :
    names.foldl follow place ∈ along place names := by
  induction names generalizing place with
  | nil => exact List.mem_singleton_self place
  | cons name rest ih => exact List.mem_cons_of_mem _ (ih (follow place name))

theorem along_append_subset (place : Place) (names more : List String) :
    along place names ⊆ along place (names ++ more) := by
  induction names generalizing place with
  | nil =>
    intro other hother
    obtain rfl := List.mem_singleton.1 hother
    exact mem_along_self other more
  | cons name rest ih => exact List.cons_subset_cons place (ih (follow place name))

theorem mem_along_concat {place other : Place} {names : List String} {name : String}
    (h : other ∈ along place (names ++ [name])) :
    other ∈ along place names ∨ other = (names ++ [name]).foldl follow place := by
  induction names generalizing place with
  | nil =>
    rcases List.mem_cons.1 h with rfl | h
    · exact .inl (List.mem_singleton_self other)
    · exact .inr (List.mem_singleton.1 h)
  | cons first rest ih =>
    rcases List.mem_cons.1 h with rfl | h
    · exact .inl List.mem_cons_self
    · exact (ih h).imp_left (List.mem_cons_of_mem _)

theorem namedPlace_mem_way (path : String) : namedPlace path ∈ way path :=
  foldl_mem_along _ _

/-- The places above the end of a path. -/
theorem along_parents_subset_way (path : String) :
    along (origin path).1 (names path).dropLast ⊆ way path := by
  rcases List.eq_nil_or_concat (names path) with hnames | ⟨parents, name, hnames⟩
  · rw [way, hnames]
    exact List.Subset.refl _
  · rw [way, hnames, List.concat_eq_append, List.dropLast_concat]
    exact along_append_subset _ parents [name]

/-! ## Two paths -/

/-- Neither path names a place on the way of the other. -/
def Apart (path other : String) : Prop :=
  namedPlace path ∉ way other ∧ namedPlace other ∉ way path

instance (path other : String) : Decidable (Apart path other) :=
  inferInstanceAs (Decidable (_ ∧ _))

/-- Two trees that a path cannot tell apart: they have the same files on its way, and the same at
its end. -/
structure Alike (path : String) (fs fs' : Files) : Prop where
  files : ∀ place ∈ way path, KeepsFileAt place fs fs'
  log : fs'.at? (namedPlace path) = fs.at? (namedPlace path)

theorem Alike.refl (path : String) (fs : Files) : Alike path fs fs :=
  ⟨fun place _ ↦ .refl place fs, rfl⟩

theorem Alike.symm (h : Alike path fs fs') : Alike path fs' fs :=
  ⟨fun place hplace content ↦ (h.files place hplace content).symm, h.log.symm⟩

theorem Alike.trans {fs₁ fs₂ fs₃ : Files} (h₁ : Alike path fs₁ fs₂) (h₂ : Alike path fs₂ fs₃) :
    Alike path fs₁ fs₃ :=
  ⟨fun place hplace ↦ (h₁.files place hplace).trans (h₂.files place hplace),
    h₂.log.trans h₁.log⟩

/-! ## What the operations on one path leave as it is -/

/-- Making a directory puts it where nothing was, or does nothing. -/
theorem makeDirectory_cases {place : Place} {isLast : Bool}
    (h : fs.makeDirectory place isLast = .ok fs') :
    fs' = fs ∨ fs.at? place = none ∧ fs' = fs.put place .directory := by
  rw [makeDirectory] at h
  rcases hat : fs.at? place with - | content | -
  · rw [hat] at h
    dsimp only at h
    split at h
    · cases h
    · exact .inr ⟨rfl, (Except.ok.inj h).symm⟩
  · rw [hat] at h
    cases h
  · rw [hat] at h
    exact .inl (Except.ok.inj h).symm

theorem at?_makeDirectories_of_not_mem {place spared : Place} {names : List String}
    (h : spared ∉ along place names) :
    (fs.makeDirectories place names).2.at? spared = fs.at? spared := by
  induction names generalizing fs place with
  | nil => rfl
  | cons name rest ih =>
    obtain ⟨-, hrest⟩ := not_or.1 (mt List.mem_cons.2 h)
    have hne : follow place name ≠ spared := fun heq ↦ hrest (heq ▸ mem_along_self _ rest)
    rw [makeDirectories]
    cases hmade : fs.makeDirectory (follow place name) rest.isEmpty with
    | error e => rfl
    | ok fs₁ =>
      dsimp only
      rw [ih hrest]
      rcases makeDirectory_cases hmade with rfl | ⟨-, rfl⟩
      · rfl
      · exact at?_put_of_ne fs .directory hne

/-- Making sure of a file changes places on its way only. -/
theorem at?_ensure_of_not_mem {spared : Place} (h : spared ∉ way path) :
    (fs.ensure path).2.at? spared = fs.at? spared := by
  have hparents : (fs.makeParents path).2.at? spared = fs.at? spared := by
    rw [makeParents]
    split
    · rfl
    · exact at?_makeDirectories_of_not_mem fun hmem ↦ h (along_parents_subset_way path hmem)
  rw [ensure]
  split
  · rfl
  · rcases hmade : fs.makeParents path with ⟨result, fs₁⟩
    rw [hmade] at hparents
    cases result with
    | error e => exact hparents
    | ok _ =>
      dsimp only at hparents ⊢
      rcases touch_cases fs₁ path with hsame | ⟨target, hplace, -, hput⟩
      · rw [hsame, hparents]
      · have hne : target ≠ spared := by
          rintro rfl
          exact h (place_eq hplace ▸ namedPlace_mem_way path)
        rw [hput, at?_put_of_ne fs₁ _ hne, hparents]

theorem alike_ensure (h : Apart other path) : Alike path fs (fs.ensure other).2 := by
  refine ⟨fun place hplace ↦ (addsAtMostEmpty_ensure fs other).keepsFileAt ?_,
    at?_ensure_of_not_mem h.2⟩
  rintro rfl
  exact h.1 hplace

theorem alike_append (h : Apart other path) {bytes : List UInt8}
    (happend : fs.append other bytes = .ok fs') : Alike path fs fs' := by
  obtain ⟨content, -, rfl⟩ := append_cases happend
  have hne : ∀ place ∈ way path, namedPlace other ≠ place := by
    rintro place hplace rfl
    exact h.1 hplace
  refine ⟨fun place hplace ↦ ?_, at?_put_of_ne fs _ (hne _ (namedPlace_mem_way path))⟩
  exact keepsFileAt_append happend (hne place hplace).symm

/-! ## What a path that leads somewhere says of its way -/

/-- On the way of a walk that gets to its end, everything above the end is a directory. -/
theorem directory_of_walk {place target : Place} {names pre : List String} {name : String}
    {post : List String} (h : fs.walk place names = .ok target)
    (hsplit : names.filter leadsOn = pre ++ name :: post) :
    ∀ other ∈ along place pre, fs.at? other = some .directory := by
  induction names generalizing place pre with
  | nil => exact absurd hsplit.symm (by simp)
  | cons first rest ih =>
    obtain ⟨hat, h⟩ := walk_cons_eq_ok.1 h
    by_cases hfirst : leadsOn first
    · rw [if_pos hfirst] at h
      rw [List.filter_cons_of_pos hfirst] at hsplit
      cases pre with
      | nil =>
        intro other hother
        obtain rfl := List.mem_singleton.1 hother
        exact hat
      | cons before pre =>
        rw [List.cons_append] at hsplit
        obtain ⟨rfl, hrest⟩ := List.cons.inj hsplit
        exact List.forall_mem_cons.2 ⟨hat, ih h.2 hrest⟩
    · rw [if_neg hfirst] at h
      rw [List.filter_cons_of_neg hfirst] at hsplit
      exact ih h hsplit

/-- A walk that gets to its end does so wherever the directories on its way are. -/
theorem walk_congr {place target : Place} {names : List String}
    (h : fs.walk place names = .ok target)
    (hkeep : ∀ other ∈ along place (names.filter leadsOn),
      fs.at? other = some .directory → fs'.at? other = some .directory) :
    fs'.walk place names = .ok target := by
  induction names generalizing place with
  | nil => exact h
  | cons name rest ih =>
    rw [walk_cons_eq_ok] at h ⊢
    obtain ⟨hat, h⟩ := h
    refine ⟨hkeep place (mem_along_self _ _) hat, ?_⟩
    by_cases hname : leadsOn name
    · rw [if_pos hname] at h ⊢
      rw [List.filter_cons_of_pos hname] at hkeep
      exact ⟨h.1, ih h.2 fun other hother ↦ hkeep other (List.mem_cons_of_mem _ hother)⟩
    · rw [if_neg hname] at h ⊢
      rw [List.filter_cons_of_neg hname] at hkeep
      exact ih h hkeep

/-- A name that is no longer than names may be. -/
def IsShort (name : String) : Prop := name.utf8ByteSize ≤ 255

theorem isShort_of_walk {place target : Place} {names : List String}
    (h : fs.walk place names = .ok target) : ∀ name ∈ names.filter leadsOn, IsShort name := by
  induction names generalizing place with
  | nil => exact nofun
  | cons first rest ih =>
    obtain ⟨-, h⟩ := walk_cons_eq_ok.1 h
    by_cases hfirst : leadsOn first
    · rw [if_pos hfirst] at h
      rw [List.filter_cons_of_pos hfirst, List.forall_mem_cons]
      refine ⟨?_, ih h.2⟩
      have hlength := h.1
      by_cases habove : first = ".."
      · rw [habove, IsShort]
        decide
      · simpa [IsShort, habove] using hlength
    · rw [if_neg hfirst] at h
      rw [List.filter_cons_of_neg hfirst]
      exact ih h

/-- A walk that ends with a blank name ends at a directory. -/
theorem directory_of_walk_blank {place target : Place} {names : List String}
    (h : fs.walk place (names ++ [""]) = .ok target) : fs.at? target = some .directory := by
  induction names generalizing place with
  | nil =>
    obtain ⟨hat, h⟩ := walk_cons_eq_ok.1 h
    rw [if_neg (by decide)] at h
    obtain rfl := Except.ok.inj h
    exact hat
  | cons name rest ih =>
    obtain ⟨-, h⟩ := walk_cons_eq_ok.1 h
    by_cases hname : leadsOn name
    · rw [if_pos hname] at h
      exact ih h.2
    · rw [if_neg hname] at h
      exact ih h

/-- A path that leads somewhere is walked to its end. -/
theorem walk_of_place {target : Place} (h : fs.place path = .ok target) :
    fs.walk (origin path).1 (origin path).2 = .ok target :=
  (place_eq_walk h fs).symm.trans h

/-- A path with a slash at its end leads to a directory. -/
theorem directory_of_place_slash {target : Place} {rest : List Char}
    (hslash : path.toList.reverse = '/' :: rest) (h : fs.place path = .ok target) :
    fs.at? target = some .directory := by
  have hpath : path.toList = rest.reverse ++ ['/'] := by
    rw [← List.reverse_reverse path.toList, hslash, List.reverse_cons]
  have hcomponents : components path =
      (Text.splitOnChar (· = '/') rest.reverse).map String.ofList ++ [""] := by
    rw [components, hpath, Text.splitOnChar_concat (by decide), List.map_append]
    rfl
  obtain ⟨first, more, hpieces⟩ :=
    List.exists_cons_of_ne_nil (Text.splitOnChar_ne_nil (· = '/') rest.reverse)
  rw [hpieces, List.map_cons, List.cons_append] at hcomponents
  have hwalk := walk_of_place h
  have horigin : ∃ names, (origin path).2 = names ++ [""] := by
    rw [origin, hcomponents]
    by_cases hfirst : String.ofList first = ""
    · rw [hfirst]
      exact ⟨_, rfl⟩
    · refine ⟨String.ofList first :: more.map String.ofList, ?_⟩
      split
      · next heq => exact absurd (List.cons.inj heq).1 hfirst
      · rfl
  obtain ⟨names, hnames⟩ := horigin
  rw [hnames] at hwalk
  exact directory_of_walk_blank hwalk

theorem mem_components_of_mem_names {name : String} (h : name ∈ names path) :
    name ∈ components path := by
  have hmem := (List.mem_filter.1 h).1
  rw [origin] at hmem
  split at hmem
  · next heq =>
    rw [heq]
    exact List.mem_cons_of_mem _ hmem
  · exact hmem

/-- No name of a path that leads somewhere holds a zero character. -/
theorem not_zero_of_place {target : Place} (h : fs.place path = .ok target) {name : String}
    (hname : name ∈ names path) : ¬ name.toList.contains (Char.ofNat 0) = true := by
  intro hzero
  have hpath : path.toList.contains (Char.ofNat 0) = true := by
    rw [List.contains_iff_mem] at hzero ⊢
    obtain ⟨piece, hpiece, rfl⟩ := List.mem_map.1 (mem_components_of_mem_names hname)
    rw [String.toList_ofList] at hzero
    exact (Text.of_mem_splitOnChar hpiece hzero).1
  rw [place, if_pos hpath] at h
  split at h
  · cases h
  · cases h

/-! ## Making sure of a file in another tree -/

/-- No name of a place is longer than names may be. -/
def IsShortPlace (place : Place) : Prop := ∀ name ∈ place, IsShort name

theorem isShort_above {place : Place} (h : IsShortPlace place) : IsShortPlace (above place) := by
  have hup : IsShort ".." := by
    rw [IsShort]
    decide
  rw [above]
  split
  · exact List.forall_mem_singleton.2 hup
  · exact List.forall_mem_append.2 ⟨h, List.forall_mem_singleton.2 hup⟩
  · exact h
  · exact fun name hmem ↦ h name (List.dropLast_subset place hmem)

theorem isShort_follow {place : Place} (h : IsShortPlace place) {name : String}
    (hname : IsShort name) : IsShortPlace (follow place name) := by
  rw [follow]
  split
  · exact isShort_above h
  · exact List.forall_mem_append.2 ⟨h, List.forall_mem_singleton.2 hname⟩

theorem isShort_getLast {place : Place} (h : IsShortPlace place) :
    IsShort (place.getLast?.getD "") := by
  cases hlast : place.getLast? with
  | none =>
    rw [Option.getD_none, IsShort]
    decide
  | some name => exact h name (List.mem_of_getLast? hlast)

/-- Where no file is in the way, the directories along some names can be made. -/
theorem makeDirectories_of_clear {place : Place} {names : List String}
    (hplace : fs.at? place = some .directory) (hshort : IsShortPlace place)
    (hnames : ∀ name ∈ names, IsShort name)
    (hclear : ∀ other ∈ along place names, ∀ content, fs.at? other ≠ some (.file content)) :
    (fs.makeDirectories place names).1 = .ok () ∧
      ∀ other ∈ along place names,
        (fs.makeDirectories place names).2.at? other = some .directory := by
  induction names generalizing fs place with
  | nil => exact ⟨rfl, List.forall_mem_singleton.2 hplace⟩
  | cons name rest ih =>
    obtain ⟨hname, hrest⟩ := List.forall_mem_cons.1 hnames
    have hshort' := isShort_follow hshort hname
    obtain ⟨-, hclear'⟩ := List.forall_mem_cons.1 hclear
    -- One directory: it is there, or it can be made.
    have hmade : ∃ fs₁, fs.makeDirectory (follow place name) rest.isEmpty = .ok fs₁ ∧
        fs₁.at? (follow place name) = some .directory := by
      rw [makeDirectory]
      rcases hat : fs.at? (follow place name) with - | content | -
      · refine ⟨fs.put (follow place name) .directory, if_neg ?_, at?_put_self _ (by simp [hat])⟩
        exact Nat.not_lt.2 (isShort_getLast hshort')
      · exact absurd hat (hclear' _ (mem_along_self _ rest) content)
      · exact ⟨fs, rfl, hat⟩
    obtain ⟨fs₁, hmade, hat⟩ := hmade
    obtain ⟨hext, hadds⟩ := makeDirectory_spec hmade
    rw [makeDirectories, hmade]
    obtain ⟨hok, hdirectories⟩ := ih hat hshort' hrest fun other hother content hfile ↦
      hclear' other hother content (hadds other content hfile)
    refine ⟨hok, List.forall_mem_cons.2 ⟨?_, hdirectories⟩⟩
    exact (makeDirectories_spec fs₁ _ rest).1 _ _ (hext _ _ hplace)

theorem isGiven_origin (path : String) : IsGiven (origin path).1 := by
  rw [origin]
  split
  · exact rfl
  · exact rfl

theorem isShort_origin (path : String) : IsShortPlace (origin path).1 := by
  rw [origin]
  split
  · refine List.forall_mem_singleton.2 ?_
    rw [IsShort]
    decide
  · exact nofun

/-- A file is made at the end of a path, or is there. -/
theorem read_touch {content : List UInt8} (hplace : fs.place path = .ok (namedPlace path))
    (hslash : ∀ rest, path.toList.reverse ≠ '/' :: rest)
    (hend : fs.at? (namedPlace path) = some (.file content) ∨
      fs.at? (namedPlace path) = none ∧ content = []) :
    (fs.touch path).1 = .ok () ∧ (fs.touch path).2.read path = .ok content := by
  rw [touch]
  split
  · next rest hreverse => exact absurd hreverse (hslash rest)
  · rw [hplace]
    dsimp only
    rcases hend with hfile | ⟨hnone, rfl⟩
    · rw [hfile]
      exact ⟨rfl, read_eq_ok.2 ⟨hplace, hfile⟩⟩
    · rw [hnone]
      have hfree : fs.at? (namedPlace path) ≠ some .directory := by simp [hnone]
      exact ⟨rfl, read_eq_ok.2
        ⟨place_mono (keepsDirectories_put _ hfree) hplace, at?_put_self _ hfree⟩⟩

theorem read_of_holds {content : List UInt8} (hholds : fs.holds path = true)
    (hend : fs.at? (namedPlace path) = some (.file content) ∨
      fs.at? (namedPlace path) = none ∧ content = []) : fs.read path = .ok content := by
  rw [holds] at hholds
  cases hplace : fs.place path with
  | error e =>
    rw [hplace] at hholds
    cases hholds
  | ok target =>
    obtain rfl := place_eq hplace
    rcases hend with hfile | ⟨hnone, -⟩
    · exact read_eq_ok.2 ⟨hplace, hfile⟩
    · simp only [hplace, hnone] at hholds
      cases hholds

/-- What is made for a path that leads somewhere are the directories above its end. -/
theorem makeParents_eq {target : Place} {parents : List String} {name : String}
    (hplace : fs'.place path = .ok target) (hnames : names path = parents ++ [name]) :
    fs.makeParents path = fs.makeDirectories (origin path).1 parents := by
  rw [makeParents, hnames, List.dropLast_concat, if_neg]
  rw [List.any_eq_true]
  rintro ⟨name, hmem, hzero⟩
  exact not_zero_of_place hplace (hnames ▸ List.mem_append_left _ hmem) hzero

/-- A path that leads to a file in one tree leads there in any other that has the directories above
it. -/
theorem place_of_parents {content : List UInt8} {parents : List String} {name : String}
    (hread : fs'.read path = .ok content) (hnames : names path = parents ++ [name])
    (hparents : ∀ other ∈ along (origin path).1 parents, fs.at? other = some .directory) :
    fs.place path = .ok (namedPlace path) := by
  obtain ⟨hplace, hat⟩ := read_eq_ok.1 hread
  rw [place_eq_walk hplace fs]
  refine walk_congr (walk_of_place hplace) fun other hother hdirectory ↦ ?_
  change other ∈ along (origin path).1 (names path) at hother
  rw [hnames] at hother
  rcases mem_along_concat hother with hmem | rfl
  · exact hparents other hmem
  · rw [← hnames, ← namedPlace, hat] at hdirectory
    cases hdirectory

/-- Where no file stands on the way of a path, a file can be made sure of at its end. That the path
itself is one that can lead to a file is told by another tree, in which it does. -/
theorem read_ensure_of_clear {parents : List String} {name : String} {content : List UInt8}
    (hread : fs'.read path = .ok content) (hnames : names path = parents ++ [name])
    (hclear : ∀ other ∈ along (origin path).1 parents, ∀ old, fs.at? other ≠ some (.file old))
    (hend : fs.at? (namedPlace path) = some (.file content) ∨
      fs.at? (namedPlace path) = none ∧ content = []) :
    (fs.ensure path).1 = .ok () ∧ (fs.ensure path).2.read path = .ok content := by
  obtain ⟨hplace, hat⟩ := read_eq_ok.1 hread
  have hwalk := walk_of_place hplace
  rw [ensure]
  by_cases hholds : fs.holds path = true
  · rw [if_pos hholds]
    exact ⟨rfl, read_of_holds hholds hend⟩
  · rw [if_neg hholds, makeParents_eq hplace hnames]
    have hnot : namedPlace path ∉ along (origin path).1 parents := by
      intro hmem
      have hdirectory := directory_of_walk hwalk hnames _ hmem
      rw [hat] at hdirectory
      cases hdirectory
    have hshort : ∀ name ∈ names path, IsShort name := isShort_of_walk hwalk
    rw [hnames] at hshort
    obtain ⟨hok, hmade⟩ := makeDirectories_of_clear (at?_of_isGiven fs (isGiven_origin path))
      (isShort_origin path) (List.forall_mem_append.1 hshort).1 hclear
    have hsame : (fs.makeDirectories (origin path).1 parents).2.at? (namedPlace path) =
        fs.at? (namedPlace path) := at?_makeDirectories_of_not_mem hnot
    generalize fs.makeDirectories (origin path).1 parents = made at hok hmade hsame ⊢
    rcases made with ⟨result, fs₁⟩
    obtain rfl : result = .ok () := hok
    dsimp only at hmade hsame ⊢
    refine read_touch (place_of_parents hread hnames hmade) (fun rest hslash ↦ ?_) (by rwa [hsame])
    have hdirectory := directory_of_place_slash hslash hplace
    rw [hat] at hdirectory
    cases hdirectory

/-- A file that could be made sure of was there with its content, or is new and empty. -/
theorem end_of_read_ensure {content : List UInt8}
    (hread : (fs.ensure path).2.read path = .ok content) :
    fs.at? (namedPlace path) = some (.file content) ∨
      fs.at? (namedPlace path) = none ∧ content = [] := by
  obtain ⟨-, hat⟩ := read_eq_ok.1 hread
  have hadds := addsAtMostEmpty_ensure fs path
  rcases hadds.file_cases _ _ hat with hold | ⟨-, rfl, -⟩
  · exact .inl hold
  · cases hold : fs.at? (namedPlace path) with
    | none => exact .inr ⟨rfl, rfl⟩
    | some entry => exact .inl ((hadds.keeps _ _ hold).symm.trans hat)

/-- Two trees that a path cannot tell apart give the same file once it is made sure of. -/
theorem Alike.read_ensure (h : Alike path fs fs') {content : List UInt8}
    (hread : (fs.ensure path).2.read path = .ok content) :
    (fs'.ensure path).1 = .ok () ∧ (fs'.ensure path).2.read path = .ok content := by
  obtain ⟨hplace, hat⟩ := read_eq_ok.1 hread
  rcases List.eq_nil_or_concat (names path) with hnames | ⟨parents, name, hnames⟩
  · -- A path without names leads to the directory where it begins.
    have hgiven : namedPlace path = (origin path).1 := by rw [namedPlace, hnames]; rfl
    rw [hgiven, at?_of_isGiven _ (isGiven_origin path)] at hat
    cases hat
  · rw [List.concat_eq_append] at hnames
    refine read_ensure_of_clear hread hnames (fun other hother old hfile ↦ ?_) ?_
    · have hway : other ∈ way path := by
        rw [way, hnames]
        exact along_append_subset _ _ _ hother
      have hkept := (addsAtMostEmpty_ensure fs path).keeps _ _ ((h.files other hway old).1 hfile)
      have hdirectory := directory_of_walk (walk_of_place hplace) hnames other hother
      exact absurd (hkept.symm.trans hdirectory) nofun
    · rw [h.log]
      exact end_of_read_ensure hread

end Telemetry.Files
