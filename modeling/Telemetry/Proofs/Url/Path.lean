import Telemetry.Proofs.Text.Search
import Telemetry.Proofs.Url.Percent
import Telemetry.Url.Reader

/-!
# Paths that are read back

A path that was read is made of segments in which nothing is left to be done (`IsSegment`): they
are encoded, no slash is in them, and none of them stands for the place where it is or for the one
above. Such segments are read back from their text (`readPath_pathText`).

All of this is about urls that are no file addresses; only there are drives looked for.
-/

namespace Telemetry.Url

variable {m : Manner} {segments names : List (List Char)} {segment : List Char}

/-! ## Segments -/

/-- A segment that stays as it is. -/
structure IsSegment (m : Manner) (segment : List Char) : Prop where
  plain : Percent.IsPlain Percent.path segment
  not_slash : ∀ c ∈ segment, isSlash m c = false
  not_dot : isDot segment = false
  not_doubleDot : isDoubleDot segment = false

theorem isSegment_nil (m : Manner) : IsSegment m [] where
  plain := by simp [Percent.IsPlain]
  not_slash := by simp
  not_dot := by decide
  not_doubleDot := by decide

theorem addSegment_of_isSegment (hm : m ≠ .file) (h : IsSegment m segment) (isLast : Bool) :
    addSegment m segments segment isLast = segments ++ [segment] := by
  simp [addSegment, h.not_dot, h.not_doubleDot, hm]

theorem mem_of_mem_shorten (h : segment ∈ shorten m segments) : segment ∈ segments := by
  unfold shorten at h
  split at h
  · split at h
    · exact h
    · simp at h
  · exact List.dropLast_subset segments h

/-- One segment more: dots are resolved, and what else is added stays as it is. -/
theorem isSegment_of_mem_addSegment (hm : m ≠ .file) (hsegments : ∀ s ∈ segments, IsSegment m s)
    (hplain : Percent.IsPlain Percent.path segment) (hslash : ∀ c ∈ segment, isSlash m c = false)
    (isLast : Bool) : ∀ s ∈ addSegment m segments segment isLast, IsSegment m s := by
  have hblank : ∀ s ∈ (if isLast then [[]] else []), IsSegment m s := by
    cases isLast with
    | false => simp
    | true => simpa using isSegment_nil m
  intro s hs
  unfold addSegment at hs
  split at hs
  · rcases List.mem_append.1 hs with hs | hs
    · exact hsegments s (mem_of_mem_shorten hs)
    · exact hblank s hs
  · next hdouble =>
    split at hs
    · rcases List.mem_append.1 hs with hs | hs
      · exact hsegments s hs
      · exact hblank s hs
    · next hdot =>
      rw [if_neg (by simp [hm])] at hs
      rcases List.mem_append.1 hs with hs | hs
      · exact hsegments s hs
      · rw [List.mem_singleton] at hs
        rw [hs]
        exact ⟨hplain, hslash, Bool.eq_false_iff.2 hdot, Bool.eq_false_iff.2 hdouble⟩

theorem addSegment_last_ne_nil (m : Manner) (segments : List (List Char)) (segment : List Char) :
    addSegment m segments segment true ≠ [] := by
  unfold addSegment
  split
  · exact List.concat_ne_nil [] _
  · split
    · exact List.concat_ne_nil [] _
    · split
      · exact List.cons_ne_nil _ []
      · exact List.concat_ne_nil segment segments

/-! ## The segments of a path -/

theorem resolve_of_isSegment (hm : m ≠ .file) (h : ∀ s ∈ names, IsSegment m s) :
    resolve m segments names = segments ++ names := by
  induction names generalizing segments with
  | nil => rw [resolve, List.append_nil]
  | cons name names ih =>
    obtain ⟨hname, hnames⟩ := List.forall_mem_cons.1 h
    cases names with
    | nil => rw [resolve, addSegment_of_isSegment hm hname]
    | cons next names =>
      rw [resolve, addSegment_of_isSegment hm hname, ih hnames, List.append_assoc]
      · rfl
      · exact List.cons_ne_nil next names

theorem isSegment_of_mem_resolve (hm : m ≠ .file) (hsegments : ∀ s ∈ segments, IsSegment m s)
    (hplain : ∀ s ∈ names, Percent.IsPlain Percent.path s)
    (hslash : ∀ s ∈ names, ∀ c ∈ s, isSlash m c = false) :
    ∀ s ∈ resolve m segments names, IsSegment m s := by
  induction names generalizing segments with
  | nil =>
    rw [resolve]
    exact hsegments
  | cons name names ih =>
    obtain ⟨hplain₁, hplains⟩ := List.forall_mem_cons.1 hplain
    obtain ⟨hslash₁, hslashes⟩ := List.forall_mem_cons.1 hslash
    cases names with
    | nil =>
      rw [resolve]
      exact isSegment_of_mem_addSegment hm hsegments hplain₁ hslash₁ true
    | cons next names =>
      rw [resolve]
      · exact ih (isSegment_of_mem_addSegment hm hsegments hplain₁ hslash₁ false) hplains hslashes
      · exact List.cons_ne_nil next names

/-- The last segment leaves something behind, if only a blank one. -/
theorem resolve_ne_nil (h : names ≠ []) : resolve m segments names ≠ [] := by
  induction names generalizing segments with
  | nil => exact absurd rfl h
  | cons name names ih =>
    cases names with
    | nil =>
      rw [resolve]
      exact addSegment_last_ne_nil m segments name
    | cons next names =>
      rw [resolve]
      · exact ih (List.cons_ne_nil next names)
      · exact List.cons_ne_nil next names

/-! ## What is read -/

theorem isSlash_encode {set : Percent.EncodeSet} {cs : List Char}
    (h : ∀ c ∈ cs, isSlash m c = false) {c : Char} (hc : c ∈ Percent.encode set cs) :
    isSlash m c = false := by
  rcases Percent.of_mem_encode hc with ⟨hmem, -⟩ | rfl | hdigit
  · exact h c hmem
  · cases m <;> decide
  · have hall : ∀ n < 0x80, (Percent.value? (Char.ofNat n)).isSome →
        isSlash m (Char.ofNat n) = false := by
      cases m <;> decide
    exact Text.forall_ascii (p := fun c ↦ (Percent.value? c).isSome → isSlash m c = false) hall
      (Percent.ascii_of_value? hdigit) hdigit

theorem readSegments_eq (hm : m ≠ .file) (cs : List Char) :
    readSegments m cs = resolve m []
      ((Text.splitOnChar (isSlash m) cs).map (Percent.encode Percent.path)) := by
  rw [readSegments, if_neg hm]

/-- What is read has segments that stay as they are, and at least one of them. -/
theorem isSegment_of_mem_readSegments (hm : m ≠ .file) (cs : List Char) :
    (∀ s ∈ readSegments m cs, IsSegment m s) ∧ readSegments m cs ≠ [] := by
  rw [readSegments_eq hm]
  constructor
  · refine isSegment_of_mem_resolve hm (by simp) (fun s hs ↦ ?_) fun s hs c hc ↦ ?_
    · obtain ⟨piece, -, rfl⟩ := List.mem_map.1 hs
      exact Percent.sparesEscapes_path.isPlain_encode piece
    · obtain ⟨piece, hpiece, rfl⟩ := List.mem_map.1 hs
      exact isSlash_encode (fun d hd ↦ (Text.of_mem_splitOnChar hpiece hd).2) hc
  · refine resolve_ne_nil ?_
    simpa using Text.splitOnChar_ne_nil (isSlash m) cs

/-- A path of a url that is no file address: only where no path is needed may it be empty. -/
def IsPath (m : Manner) (path : UrlPath) : Prop :=
  ∃ names, path = .segments names ∧ (∀ s ∈ names, IsSegment m s) ∧ (names = [] → m = .other)

theorem isPath_readPath (hm : m ≠ .file) (cs : List Char) : IsPath m (readPath m cs) := by
  unfold readPath
  cases cs with
  | nil =>
    refine ⟨_, rfl, ?_, ?_⟩
    · split
      · simp
      · simpa using isSegment_nil m
    · split
      · next hother => exact fun _ ↦ hother
      · exact fun h ↦ absurd h (List.cons_ne_nil _ _)
  | cons c rest =>
    obtain ⟨hsegments, hne⟩ := isSegment_of_mem_readSegments hm
      (if isSlash m c = true then rest else c :: rest)
    exact ⟨_, rfl, hsegments, fun h ↦ absurd h hne⟩

/-! ## What is shown -/

theorem pathText_segments (h : names ≠ []) :
    pathText (.segments names) = '/' :: Text.joinWith ['/'] names := by
  induction names with
  | nil => exact absurd rfl h
  | cons name names ih =>
    change '/' :: name ++ pathText (.segments names) = _
    by_cases hlast : names = []
    · rw [hlast]
      exact List.append_nil _
    · rw [ih hlast, Text.joinWith_cons _ _ hlast, List.append_assoc]
      rfl

theorem isSlash_slash (m : Manner) : isSlash m '/' = true := by
  cases m <;> decide

/-- A path is read back from its text. -/
theorem readPath_pathText (hm : m ≠ .file) {path : UrlPath} (h : IsPath m path) :
    readPath m (pathText path) = path := by
  obtain ⟨names, rfl, hnames, hempty⟩ := h
  by_cases hne : names = []
  · rw [hne, hempty hne]
    rfl
  · have hsplit : Text.splitOnChar (isSlash m) (Text.joinWith ['/'] names) = names :=
      Text.splitOnChar_joinWith (isSlash_slash m) hne fun s hs ↦ (hnames s hs).not_slash
    have hencode : names.map (Percent.encode Percent.path) = names :=
      (List.map_congr_left fun s hs ↦ Percent.encode_of_isPlain (hnames s hs).plain).trans
        (List.map_id names)
    rw [pathText_segments hne]
    change UrlPath.segments (readSegments m (if isSlash m '/' = true then _ else _)) = _
    rw [isSlash_slash, if_pos rfl, readSegments_eq hm, hsplit, hencode,
      resolve_of_isSegment hm hnames, List.nil_append]

/-- Nothing in the text of a path ends it or is dropped. -/
theorem of_mem_pathText {path : UrlPath} (h : IsPath m path) {c : Char} (hc : c ∈ pathText path) :
    0x20 < c.toNat ∧ endsPath c = false := by
  obtain ⟨names, rfl, hnames, -⟩ := h
  obtain ⟨name, hname, hc⟩ := List.mem_flatMap.1 hc
  rcases List.mem_cons.1 hc with rfl | hc
  · decide
  · have hplain := (hnames name hname).plain c hc
    exact Text.forall_ascii (p := fun c ↦ Percent.path c = false →
      0x20 < c.toNat ∧ endsPath c = false) (by decide) hplain.1 hplain.2

/-- A path that is not empty begins with a slash. -/
theorem pathText_eq_nil_or {path : UrlPath} (h : IsPath m path) :
    pathText path = [] ∨ ∃ cs, pathText path = '/' :: cs := by
  obtain ⟨names, rfl, -⟩ := h
  by_cases hne : names = []
  · rw [hne]
    exact .inl rfl
  · exact .inr ⟨_, pathText_segments hne⟩

end Telemetry.Url
