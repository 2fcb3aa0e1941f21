import Mathlib.Data.List.Forall2
import Mathlib.Data.List.Induction
import Telemetry.Proofs.Definition.Identity
import Telemetry.Proofs.Definition.Labels

/-!
# What a load keeps

The sources of a store, one behind the other, are a list of entries: each definition that is written
in a source is one, and a source that cannot be used is a single one. A load keeps the definitions
of the entries that are accepted and leaves a problem for each of the others, both in the order of
the entries (`DefinitionSet.Collects`).

An identity depends on what was accepted before, but on nothing else: the definitions of a set are a
fold over the accepted ones (`definitions_foldl_addEntry`). So refused entries have no part in the
identities of others. Whatever they give way to takes identities that were free, and all that this
can do to the definitions behind it is to change their numbers (`AlikeAround`).

The search for a number ends because each number that is passed over belongs to another definition,
and the base to one more: `IsFreeId` says how far it can go.
-/

namespace Telemetry

/-! ## Free identities -/

namespace DefinitionSet

/-- What a definition goes by where some identities are taken: its base, or its base with the least
number from two on that is left. The numbers that are not left are at most as many as the identities
that are taken, one of which is the base. -/
inductive IsFreeId (base : String) (taken : List String) : String → Prop
  | base (hfree : base ∉ taken) : IsFreeId base taken base
  | numbered {n : Nat} (hbase : base ∈ taken) (hfree : numberedId base n ∉ taken) (hfrom : 2 ≤ n)
      (hleast : ∀ i, 2 ≤ i → i < n → numberedId base i ∈ taken) (hbound : n ≤ taken.length + 1) :
      IsFreeId base taken (numberedId base n)

variable {base : String} {taken : List String}

/-- The search stops at a number behind which it passed over identities that are taken. -/
theorem exists_freeNumberedId (base : String) (taken : List String) (n fuel : Nat) :
    ∃ m, n ≤ m ∧ freeNumberedId base taken n fuel = numberedId base m ∧
      ∀ i, n ≤ i → i < m → numberedId base i ∈ taken := by
  induction fuel generalizing n with
  | zero => exact ⟨n, Nat.le_refl n, rfl, fun i hni hin ↦ absurd hin (Nat.not_lt_of_le hni)⟩
  | succ fuel ih =>
    rw [freeNumberedId]
    by_cases hn : taken.contains (numberedId base n) = true
    · obtain ⟨m, hnm, hid, hpassed⟩ := ih (n + 1)
      rw [if_pos hn]
      refine ⟨m, Nat.le_of_succ_le hnm, hid, fun i hni him ↦ ?_⟩
      rcases Nat.eq_or_lt_of_le hni with rfl | hni
      · exact List.contains_iff_mem.1 hn
      · exact hpassed i hni him
    · rw [if_neg hn]
      exact ⟨n, Nat.le_refl n, rfl, fun i hni hin ↦ absurd hin (Nat.not_lt_of_le hni)⟩

theorem numberedId_ne_base (base : String) (n : Nat) : numberedId base n ≠ base := by
  intro h
  have hlength := congrArg (·.toList.length) h
  simp [numberedId] at hlength

/-- Each number that is passed over is taken, and so is the base. -/
theorem le_of_forall_mem {n : Nat} (hbase : base ∈ taken) (hfrom : 2 ≤ n)
    (hpassed : ∀ i, 2 ≤ i → i < n → numberedId base i ∈ taken) : n ≤ taken.length + 1 := by
  have hnumbers : ((List.range' 2 (n - 2)).map (numberedId base)).Nodup :=
    List.Nodup.map (numberedId_injective base) List.nodup_range'
  have hnew : base ∉ (List.range' 2 (n - 2)).map (numberedId base) := by
    intro hmem
    obtain ⟨i, -, hi⟩ := List.mem_map.1 hmem
    exact numberedId_ne_base base i hi
  have hsubset : base :: (List.range' 2 (n - 2)).map (numberedId base) ⊆ taken := by
    intro id hid
    rcases List.mem_cons.1 hid with rfl | hid
    · exact hbase
    · obtain ⟨i, hi, rfl⟩ := List.mem_map.1 hid
      rw [List.mem_range'_1] at hi
      exact hpassed i hi.1 (by omega)
  have hlength := ((List.nodup_cons.2 ⟨hnew, hnumbers⟩).subperm hsubset).length_le
  rw [List.length_cons, List.length_map, List.length_range'] at hlength
  omega

theorem isFreeId_freeId (base : String) (taken : List String) :
    IsFreeId base taken (freeId base taken) := by
  have hfree := freeId_not_mem base taken
  rw [freeId] at hfree ⊢
  by_cases hbase : taken.contains base = true
  · rw [if_pos hbase] at hfree ⊢
    obtain ⟨n, hfrom, hid, hpassed⟩ := exists_freeNumberedId base taken 2 taken.length
    rw [hid] at hfree ⊢
    have hmem := List.contains_iff_mem.1 hbase
    exact .numbered hmem hfree hfrom hpassed (le_of_forall_mem hmem hfrom hpassed)
  · rw [if_neg hbase] at hfree ⊢
    exact .base hfree

/-! ## Definitions that go by identities of their own -/

/-- The identity is the base, alone or with a number from two on behind it. -/
def GoesByBase (d : Definition) : Prop :=
  d.id = baseId d ∨ ∃ n, 2 ≤ n ∧ d.id = numberedId (baseId d) n

theorem IsFreeId.goesByBase {d : Definition} (h : IsFreeId (baseId d) taken d.id) :
    GoesByBase d := by
  generalize hid : d.id = id at h
  cases h with
  | base _ => exact .inl hid
  | @numbered n _ _ hfrom _ _ => exact .inr ⟨n, hfrom, hid⟩

/-- Each of the definitions goes by what those before it leave free. -/
def IsNamed (definitions : List Definition) : Prop :=
  ∀ earlier d later, definitions = earlier ++ d :: later →
    IsFreeId (baseId d) (earlier.map Definition.id) d.id

/-- Puts a definition behind others, under an identity that they leave free. -/
def nameAmong (named : List Definition) (d : Definition) : List Definition :=
  named ++ [{ d with id := freeId (baseId d) (named.map Definition.id) }]

variable {named definitions : List Definition}

theorem isNamed_nil : IsNamed [] := by
  intro earlier d later h
  cases List.append_eq_nil_iff.1 h.symm |>.2

theorem IsNamed.nameAmong (h : IsNamed named) (d : Definition) : IsNamed (nameAmong named d) := by
  intro earlier d' later hsplit
  rw [DefinitionSet.nameAmong] at hsplit
  rcases List.eq_nil_or_concat' later with rfl | ⟨later, last, rfl⟩
  · obtain ⟨rfl, hlast⟩ := List.append_inj' hsplit rfl
    obtain rfl := (List.cons.inj hlast).1
    exact isFreeId_freeId _ _
  · rw [← List.cons_append, ← List.append_assoc] at hsplit
    exact h earlier d' later (List.append_inj' hsplit rfl).1

theorem IsNamed.foldl (h : IsNamed named) (definitions : List Definition) :
    IsNamed (definitions.foldl DefinitionSet.nameAmong named) := by
  induction definitions generalizing named with
  | nil => exact h
  | cons d definitions ih => exact ih (h.nameAmong d)

theorem IsNamed.goesByBase (h : IsNamed definitions) {d : Definition} (hd : d ∈ definitions) :
    GoesByBase d := by
  obtain ⟨earlier, later, rfl⟩ := List.append_of_mem hd
  exact (h earlier d later rfl).goesByBase

/-- What was named stays at the front when more is named. -/
theorem exists_foldl_nameAmong (named definitions : List Definition) :
    ∃ new, definitions.foldl nameAmong named = named ++ new := by
  induction definitions generalizing named with
  | nil => exact ⟨[], (List.append_nil named).symm⟩
  | cons d definitions ih =>
    obtain ⟨new, hnew⟩ := ih (nameAmong named d)
    refine ⟨{ d with id := freeId (baseId d) (named.map Definition.id) } :: new, ?_⟩
    rw [List.foldl_cons, hnew, nameAmong, List.append_assoc]
    rfl

end DefinitionSet

/-- A definition on its own, which goes by its context. -/
def Definition.unnamed (d : Definition) : Definition := { d with id := d.context }

theorem Definition.unnamed_of_ofRaw {raw : RawDefinition} {d : Definition}
    (h : ofRaw raw = .ok d) : d.unnamed = d := by
  obtain ⟨-, columns, queryTimeout, scrapeInterval, -, rfl⟩ := eq_of_ofRaw h
  rfl

namespace DefinitionSet

/-- Naming changes nothing but the identities. -/
theorem map_unnamed_foldl (named definitions : List Definition) :
    (definitions.foldl nameAmong named).map Definition.unnamed =
      named.map Definition.unnamed ++ definitions.map Definition.unnamed := by
  induction definitions generalizing named with
  | nil => exact (List.append_nil _).symm
  | cons d definitions ih =>
    rw [List.foldl_cons, ih, nameAmong, List.map_append, List.append_assoc]
    rfl

end DefinitionSet

/-! ## Entries -/

/-- What stands in the sources: a definition as written, or a source that cannot be used, with the
problem that it has. -/
inductive SourceEntry where
  | written (raw : RawDefinition)
  | unusable (problem : String)
  deriving DecidableEq

namespace SourceEntry

/-- The definition that an entry gives, if it is accepted. -/
def accepted? : SourceEntry → Option Definition
  | .written raw => (Definition.ofRaw raw).toOption
  | .unusable _ => none

/-- The problem that an entry leaves, if it is refused. -/
def problem? : SourceEntry → Option String
  | .written raw => DefinitionSet.refusal? raw
  | .unusable problem => some problem

/-- The entry gives no definition. -/
def IsRefused (e : SourceEntry) : Prop := e.accepted? = none

theorem unnamed_of_accepted? {e : SourceEntry} {d : Definition} (h : e.accepted? = some d) :
    d.unnamed = d := by
  cases e with
  | unusable problem => cases h
  | written raw =>
    rw [accepted?] at h
    cases hraw : Definition.ofRaw raw with
    | error e =>
      rw [hraw] at h
      cases h
    | ok d' =>
      rw [hraw] at h
      obtain rfl := Option.some.inj h
      exact Definition.unnamed_of_ofRaw hraw

theorem map_unnamed_filterMap (entries : List SourceEntry) :
    (entries.filterMap accepted?).map Definition.unnamed = entries.filterMap accepted? := by
  refine (List.map_congr_left fun d hd ↦ ?_).trans (List.map_id _)
  obtain ⟨e, -, he⟩ := List.mem_filterMap.1 hd
  exact unnamed_of_accepted? he

end SourceEntry

namespace DefinitionSet

open SourceEntry

/-- Adds what an entry gives. -/
def addEntry (set : DefinitionSet) : SourceEntry → DefinitionSet
  | .written raw => set.add raw
  | .unusable problem => set.addProblem problem

theorem definitions_addEntry (set : DefinitionSet) (e : SourceEntry) :
    (set.addEntry e).definitions = e.accepted?.toList.foldl nameAmong set.definitions := by
  cases e with
  | unusable problem => rfl
  | written raw =>
    rw [addEntry, accepted?, add]
    cases Definition.ofRaw raw <;> rfl

theorem problems_addEntry (set : DefinitionSet) (e : SourceEntry) :
    (set.addEntry e).problems = set.problems ++ e.problem?.toList := by
  cases e with
  | unusable problem => rfl
  | written raw => exact set.problems_add raw

/-- What is kept hangs on what is accepted, and on nothing else. -/
theorem definitions_foldl_addEntry (entries : List SourceEntry) (set : DefinitionSet) :
    (entries.foldl addEntry set).definitions =
      (entries.filterMap accepted?).foldl nameAmong set.definitions := by
  induction entries generalizing set with
  | nil => rfl
  | cons e entries ih =>
    rw [List.foldl_cons, ih, definitions_addEntry]
    cases he : e.accepted? with
    | none => rw [List.filterMap_cons_none he, Option.toList_none, List.foldl_nil]
    | some d =>
      rw [List.filterMap_cons_some he, Option.toList_some, List.foldl_cons, List.foldl_cons,
        List.foldl_nil]

theorem problems_foldl_addEntry (entries : List SourceEntry) (set : DefinitionSet) :
    (entries.foldl addEntry set).problems = set.problems ++ entries.filterMap problem? := by
  induction entries generalizing set with
  | nil => rw [List.foldl_nil, List.filterMap_nil, List.append_nil]
  | cons e entries ih =>
    rw [List.foldl_cons, ih, problems_addEntry, List.append_assoc]
    cases he : e.problem? with
    | none => rw [List.filterMap_cons_none he, Option.toList_none, List.nil_append]
    | some problem =>
      rw [List.filterMap_cons_some he, Option.toList_some, List.singleton_append]

/-- The set of the entries: what is accepted, as it was written, and a problem for each entry that
is refused, both in the order of the entries, and an identity for each definition that those before
it leave free. -/
structure Collects (entries : List SourceEntry) (set : DefinitionSet) : Prop where
  kept : set.definitions.map Definition.unnamed = entries.filterMap accepted?
  problems : set.problems = entries.filterMap problem?
  named : IsNamed set.definitions
  unique : set.HasUniqueIds

/-- The same definition, but for the number behind the base of its identity. -/
structure SameButNumber (d d' : Definition) : Prop where
  same : d.unnamed = d'.unnamed
  first : GoesByBase d
  second : GoesByBase d'

/-- Two sets of definitions of entries that are the same before and behind some, which give the
definitions `new` in the second set and none in the first. The definitions of the entries before are
the same, and those of the entries behind are the same but for their numbers; without new ones they
are altogether the same. -/
structure AlikeAround (before others behind : List SourceEntry) (set set' : DefinitionSet)
    (first new second second' : List Definition) : Prop where
  definitions : set.definitions = first ++ second
  definitions' : set'.definitions = first ++ new ++ second'
  before : first.map Definition.unnamed = before.filterMap accepted?
  others : new.map Definition.unnamed = others.filterMap accepted?
  behind : second.map Definition.unnamed = behind.filterMap accepted?
  numbers : List.Forall₂ SameButNumber second second'
  same : new = [] → second = second'

theorem forall₂_sameButNumber {named named' : List Definition} (hfirst : ∀ d ∈ named, GoesByBase d)
    (hsecond : ∀ d ∈ named', GoesByBase d)
    (hsame : named.map Definition.unnamed = named'.map Definition.unnamed) :
    List.Forall₂ SameButNumber named named' := by
  rw [← List.forall₂_eq_eq_eq, List.forall₂_map_left_iff, List.forall₂_map_right_iff,
    List.forall₂_iff_zip] at hsame
  rw [List.forall₂_iff_zip]
  refine ⟨hsame.1, fun hmem ↦ ?_⟩
  obtain ⟨hd, hd'⟩ := List.of_mem_zip hmem
  exact ⟨hsame.2 hmem, hfirst _ hd, hsecond _ hd'⟩

/-- What refused entries give way to changes nothing of the definitions around it but numbers. -/
theorem exists_alikeAround {before refused others behind : List SourceEntry}
    (hrefused : ∀ e ∈ refused, e.IsRefused) :
    ∃ first new second second', AlikeAround before others behind
      ((before ++ refused ++ behind).foldl addEntry empty)
      ((before ++ others ++ behind).foldl addEntry empty) first new second second' := by
  -- The definitions before, those in the place, and those behind, in both sets.
  let first := (before.filterMap accepted?).foldl nameAmong []
  obtain ⟨new, hnew⟩ := exists_foldl_nameAmong first (others.filterMap accepted?)
  obtain ⟨second, hsecond⟩ := exists_foldl_nameAmong first (behind.filterMap accepted?)
  obtain ⟨second', hsecond'⟩ := exists_foldl_nameAmong (first ++ new) (behind.filterMap accepted?)
  have hdefinitions : ((before ++ refused ++ behind).foldl addEntry empty).definitions =
      first ++ second := by
    have hnone : refused.filterMap accepted? = [] := List.filterMap_eq_nil_iff.2 hrefused
    rw [definitions_foldl_addEntry, List.filterMap_append, List.filterMap_append, hnone,
      List.append_nil, List.foldl_append]
    exact hsecond
  have hdefinitions' : ((before ++ others ++ behind).foldl addEntry empty).definitions =
      first ++ new ++ second' := by
    rw [definitions_foldl_addEntry, List.filterMap_append, List.filterMap_append,
      List.foldl_append, List.foldl_append]
    change (behind.filterMap accepted?).foldl nameAmong
      ((others.filterMap accepted?).foldl nameAmong first) = _
    rw [hnew, hsecond']
  have hunnamed (front : List Definition) (entries : List SourceEntry) (more : List Definition)
      (h : (entries.filterMap accepted?).foldl nameAmong front = front ++ more) :
      more.map Definition.unnamed = entries.filterMap accepted? := by
    have hmap := congrArg (List.map Definition.unnamed) h
    rw [map_unnamed_foldl, List.map_append, map_unnamed_filterMap] at hmap
    exact (List.append_cancel_left hmap).symm
  have hbehind := hunnamed first behind second hsecond
  have hnamed : IsNamed (first ++ second) := by
    rw [← hsecond]
    exact (isNamed_nil.foldl _).foldl _
  have hnamed' : IsNamed (first ++ new ++ second') := by
    rw [← hsecond', ← hnew]
    exact ((isNamed_nil.foldl _).foldl _).foldl _
  refine ⟨first, new, second, second', hdefinitions, hdefinitions', ?_,
    hunnamed first others new hnew, hbehind,
    forall₂_sameButNumber (fun d hd ↦ ?_) (fun d hd ↦ ?_) ?_, ?_⟩
  · exact (map_unnamed_foldl [] _).trans (SourceEntry.map_unnamed_filterMap before)
  · exact hnamed.goesByBase (List.mem_append_right _ hd)
  · exact hnamed'.goesByBase (List.mem_append_right _ hd)
  · exact hbehind.trans (hunnamed _ behind second' hsecond').symm
  · rintro rfl
    rw [List.append_nil, hsecond] at hsecond'
    exact List.append_cancel_left hsecond'

end DefinitionSet

/-! ## Sources -/

namespace DefinitionStore

open DefinitionSet

section

variable [TomlFaults]

/-- The entries of a source. One that is missing, is not encoded text or is no definition file is a
single entry. -/
def entriesOf (fs : Files) (path : String) : List SourceEntry :=
  match fs.read path with
  | .error e => [.unusable (path ++ ": " ++ e.message)]
  | .ok content =>
    match Utf8.decode content with
    | .error fault => [.unusable (path ++ ": " ++ fault.message)]
    | .ok text =>
      match DefinitionFile.read? text with
      | none => [.unusable (path ++ ": " ++ tomlFault text)]
      | some raws => raws.map .written

/-- The entries of all sources. -/
def entries (store : DefinitionStore) (fs : Files) : List SourceEntry :=
  store.sources.flatMap (entriesOf fs)

theorem entriesOf_of_parse {fs : Files} {path : String} {content : List UInt8}
    {raws : List RawDefinition} (hread : fs.read path = .ok content)
    (hparse : parse content = .ok raws) : entriesOf fs path = raws.map .written := by
  rw [entriesOf, hread]
  rw [parse] at hparse
  cases htext : Utf8.decode content with
  | error fault => simp [htext] at hparse
  | ok text =>
    cases hdefinitions : DefinitionFile.read? text with
    | none => simp [htext, hdefinitions] at hparse
    | some written =>
      simp only [htext, hdefinitions, Except.ok.injEq] at hparse
      simp only [htext, hdefinitions, hparse]

theorem addSource_eq (fs : Files) (set : DefinitionSet) (path : String) :
    addSource fs set path = (entriesOf fs path).foldl addEntry set := by
  rw [addSource, entriesOf, readSource]
  cases fs.read path with
  | error e => rfl
  | ok content =>
    simp only [parse]
    cases Utf8.decode content with
    | error fault => rfl
    | ok text =>
      cases hread : DefinitionFile.read? text with
      | none =>
        simp only [hread, Except.map]
        rfl
      | some raws =>
        simp only [hread, Except.map, List.foldl_map]
        rfl

theorem load_eq (fs : Files) (store : DefinitionStore) :
    (store.load fs).2 = (store.entries fs).foldl addEntry empty := by
  rw [load_snd, loadedSet, entries, List.foldl_flatMap]
  exact List.foldl_ext _ _ _ fun set path _ ↦ addSource_eq fs set path

/-- **What a load keeps.** A load collects the entries of its sources. Entries that are refused
change nothing of the definitions around them but numbers: whatever other entries stand in their
place, in these sources or in others. -/
theorem load_collects (fs : Files) (store : DefinitionStore) :
    Collects (store.entries fs) (store.load fs).2 ∧
      ∀ (fs' : Files) (store' : DefinitionStore) (before refused others behind : List SourceEntry),
        store.entries fs = before ++ refused ++ behind → (∀ e ∈ refused, e.IsRefused) →
        store'.entries fs' = before ++ others ++ behind →
        ∃ first new second second', AlikeAround before others behind
          (store.load fs).2 (store'.load fs').2 first new second second' := by
  constructor
  · have hdefinitions : (store.load fs).2.definitions =
        ((store.entries fs).filterMap SourceEntry.accepted?).foldl nameAmong [] := by
      rw [load_eq, definitions_foldl_addEntry]
      rfl
    refine ⟨?_, ?_, ?_, hasUniqueIds_load fs store⟩
    · rw [hdefinitions, map_unnamed_foldl, SourceEntry.map_unnamed_filterMap]
      rfl
    · rw [load_eq, problems_foldl_addEntry]
      rfl
    · rw [hdefinitions]
      exact isNamed_nil.foldl _
  · intro fs' store' before refused others behind hentries hrefused hentries'
    rw [load_eq, load_eq, hentries, hentries']
    exact exists_alikeAround hrefused

end

/-- Whatever the details of faults are, the definitions are the same, and so is the number of
problems. -/
theorem load_congr_faults (faults faults' : TomlFaults) (fs : Files) (store : DefinitionStore) :
    (@load faults store fs).2.definitions = (@load faults' store fs).2.definitions ∧
      (@load faults store fs).2.problems.length =
        (@load faults' store fs).2.problems.length := by
  have hentries (path : String) :
      (@entriesOf faults fs path).filterMap SourceEntry.accepted? =
          (@entriesOf faults' fs path).filterMap SourceEntry.accepted? ∧
        ((@entriesOf faults fs path).filterMap SourceEntry.problem?).length =
          ((@entriesOf faults' fs path).filterMap SourceEntry.problem?).length := by
    unfold entriesOf
    cases fs.read path with
    | error e => exact ⟨rfl, rfl⟩
    | ok content =>
      dsimp only
      cases Utf8.decode content with
      | error fault => exact ⟨rfl, rfl⟩
      | ok text =>
        dsimp only
        cases DefinitionFile.read? text with
        | none => exact ⟨rfl, rfl⟩
        | some raws => exact ⟨rfl, rfl⟩
  rw [@load_eq faults, @load_eq faults', definitions_foldl_addEntry, definitions_foldl_addEntry,
    problems_foldl_addEntry, problems_foldl_addEntry]
  simp only [entries, List.filterMap_flatMap, List.length_append, List.length_flatMap,
    (hentries _).1, (hentries _).2, and_self]

/-! ### A definition that is repaired

One definition stands in a source that is listed twice. Between the two, another source holds it
with the request that is given, and in front of all a source is missing. -/

/-- The definition. -/
def sessions (request : String) : RawDefinition where
  context := "c"
  help := [("v", "")]
  request := request

/-- A file with the definition. -/
def sessionsText (request : String) : List UInt8 :=
  Utf8.encode
    ("[[metric]]\ncontext = \"c\"\nmetricsdesc.v = \"\"\nrequest = \"" ++ request ++ "\"\n")

/-- The files. -/
def sessionsFiles (request : String) : Files :=
  (Files.empty.write "a.toml" (sessionsText "q")).write "b.toml" (sessionsText request)

/-- The store. -/
def sessionsStore : DefinitionStore := .ofSources ["gone.toml", "a.toml", "b.toml", "a.toml"]

/-- The entries before the definition in between. -/
def sessionsBefore : List SourceEntry :=
  [.unusable "gone.toml: No such file or directory (os error 2)", .written (sessions "q")]

theorem entries_sessionsStore {request : String}
    (hparse : parse (sessionsText request) = .ok [sessions request]) :
    sessionsStore.entries (sessionsFiles request) =
      sessionsBefore ++ [.written (sessions request)] ++ [.written (sessions "q")] := by
  have hq : parse (sessionsText "q") = .ok [sessions "q"] := by decide +kernel
  have ha : entriesOf (sessionsFiles request) "a.toml" = [.written (sessions "q")] :=
    entriesOf_of_parse rfl hq
  have hb : entriesOf (sessionsFiles request) "b.toml" = [.written (sessions request)] :=
    entriesOf_of_parse rfl hparse
  rw [entries, show sessionsStore.sources = ["gone.toml", "a.toml", "b.toml", "a.toml"] from rfl]
  simp only [List.flatMap_cons, ha, hb]
  rfl

/-- Without a request the definition in between takes no identity. With one it takes the number that
the definition behind it had. -/
theorem load_collects_repaired :
    (∃ first new second second', AlikeAround sessionsBefore [.written (sessions "q")]
      [.written (sessions "q")] (sessionsStore.load (sessionsFiles " ")).2
      (sessionsStore.load (sessionsFiles "q")).2 first new second second') ∧
    (sessionsStore.load (sessionsFiles " ")).2.definitions.map Definition.id =
      ["c[v]", "c[v]#2"] ∧
    (sessionsStore.load (sessionsFiles "q")).2.definitions.map Definition.id =
      ["c[v]", "c[v]#2", "c[v]#3"] := by
  have hblank := entries_sessionsStore
    (show parse (sessionsText " ") = .ok [sessions " "] by decide +kernel)
  have hgiven := entries_sessionsStore
    (show parse (sessionsText "q") = .ok [sessions "q"] by decide +kernel)
  have hrefused : ∀ e ∈ [SourceEntry.written (sessions " ")], e.IsRefused := by
    intro e he
    rw [List.mem_singleton.1 he]
    rfl
  refine ⟨(load_collects (sessionsFiles " ") sessionsStore).2 (sessionsFiles "q") sessionsStore
    _ _ _ _ hblank hrefused hgiven, ?_, ?_⟩
  · rw [load_eq, hblank]
    decide +kernel
  · rw [load_eq, hgiven]
    decide +kernel

end DefinitionStore

end Telemetry
