import Mathlib.Algebra.GroupWithZero.Nat
import Mathlib.Algebra.Order.BigOperators.Group.List
import Mathlib.Algebra.Order.Group.Nat
import Telemetry.Proofs.Exposition.Families
import Telemetry.Proofs.Exposition.Line

/-!
# Pages of the text exposition

A page of observations is read to its end exactly if each of them is called by a name
(`isSome_readPage?_render_iff`): a name that is none stands in the type comment of its family, which
then cannot be read. Help texts and the values of labels never matter.

What is read are the samples of all the observations, each written as the kind that its family has,
which is the kind of the first observation of the name (`perm_pageSamples`). So the samples are
those that the observations call for exactly if no name is shared by a histogram and something else
(`perm_samplesOf_iff`). That the page cannot make up for one such name with another is seen from the
longest names down: samples called `n_sum` come from histograms called `n` and from what is called
`n_sum` itself.
-/

namespace Telemetry.Exposition

variable {o : Observation} {observations : List Observation} {f : MetricFamily}

/-! ## The samples that an observation calls for -/

/-- The samples of the buckets of a histogram, the infinite one among them. -/
def bucketSamples (name : String) (ls : List (String × String)) (h : Histogram) : List Sample :=
  (h.buckets.map fun b ↦ sampleOf name "_bucket" (ls ++ [("le", b.1.text)]) (.ofNat b.2)) ++
    (if h.buckets.any fun b ↦ b.1 == .infinity false then []
      else [sampleOf name "_bucket" (ls ++ [("le", "+Inf")]) (.ofNat h.count)])

/-- The samples of an observation that is published as one of the given kind. -/
def samplesAs (kind : MetricKind) (o : Observation) : List Sample :=
  match kind with
  | .gauge | .counter => [sampleOf o.name "" o.labels o.value]
  | .histogram =>
    let h := o.histogram.getD ⟨0, []⟩
    bucketSamples o.name o.labels h ++
      [sampleOf o.name "_sum" o.labels o.value, sampleOf o.name "_count" o.labels (.ofNat h.count)]

/-- The samples that an observation calls for. -/
def samplesOf (o : Observation) : List Sample := samplesAs o.kind o

/-- The comments of a family. -/
def commentLines (f : MetricFamily) : List Line :=
  (if f.help.isEmpty then [] else [.help f.name.toList]) ++ [.type f.name.toList f.kind]

/-- The lines of a family. -/
def familyLines (f : MetricFamily) : List Line :=
  commentLines f ++ f.metrics.flatMap fun o ↦ (samplesAs f.kind o).map .sample

/-- The lines of a page. -/
def pageLines (observations : List Observation) : List Line :=
  (MetricFamily.group observations).flatMap familyLines

/-! ## Names with an ending -/

theorem isMetricName_append_iff {name : List Char} (h : isMetricName name = true)
    (rest : List Char) :
    isMetricName (name ++ rest) = true ↔ rest.all isNameChar = true := by
  cases name with
  | nil => cases h
  | cons c cs =>
    rw [isMetricName, Bool.and_eq_true] at h
    rw [List.cons_append, isMetricName, List.all_append, h.1, h.2, Bool.true_and, Bool.true_and]

/-- The labels of an observation have names. -/
def HasLabelNames (o : Observation) : Prop := ∀ l ∈ o.labels, isLabelName l.1.toList = true

variable {name : String} {ls : List (String × String)}

theorem reads_bucketLines (hname : isMetricName name.toList = true)
    (hlabels : ∀ l ∈ ls, isLabelName l.1.toList = true) (h : Histogram) :
    Reads (bucketLines name ls h) ((bucketSamples name ls h).map .sample) := by
  have hline (bound : String) (count : Nat) :
      Reads (sample name "_bucket" (ls ++ [("le", bound)]) (.ofNat count))
        [.sample (sampleOf name "_bucket" (ls ++ [("le", bound)]) (.ofNat count))] := by
    refine reads_sample ((isMetricName_append_iff hname _).2 (by decide)) ?_ _
    intro l hl
    rcases List.mem_append.1 hl with hl | hl
    · exact hlabels l hl
    · rw [List.mem_singleton.1 hl]
      exact (by decide : isLabelName "le".toList = true)
  have hbuckets := reads_flatMap (l := h.buckets) fun b _ ↦ hline b.1.text b.2
  unfold bucketLines bucketSamples
  rw [List.map_append, List.map_map]
  refine Reads.append ?_ ?_
  · rw [List.map_eq_flatMap]
    exact hbuckets
  · split
    · exact reads_nil
    · exact hline "+Inf" h.count

/-- The sample lines of an observation are read as the samples of its kind. -/
theorem reads_sampleLines (kind : MetricKind) (hname : isMetricName o.name.toList = true)
    (hlabels : HasLabelNames o) :
    Reads (sampleLines o.name kind o) ((samplesAs kind o).map .sample) := by
  have hplain : isMetricName (o.name.toList ++ "".toList) = true :=
    (isMetricName_append_iff hname _).2 (by decide)
  have hsum : isMetricName (o.name.toList ++ "_sum".toList) = true :=
    (isMetricName_append_iff hname _).2 (by decide)
  have hcount : isMetricName (o.name.toList ++ "_count".toList) = true :=
    (isMetricName_append_iff hname _).2 (by decide)
  cases kind with
  | gauge => exact reads_sample hplain hlabels o.value
  | counter => exact reads_sample hplain hlabels o.value
  | histogram =>
    unfold sampleLines samplesAs
    rw [List.map_append]
    dsimp only
    rw [List.append_assoc]
    exact (reads_bucketLines hname hlabels _).append
      ((reads_sample hsum hlabels _).append (reads_sample hcount hlabels _))

/-! ## Families -/

theorem endsLine_sampleLines (name : String) (kind : MetricKind) (o : Observation) :
    EndsLine (sampleLines name kind o) := by
  have hsample (ending : String) (ls : List (String × String)) (value : Binary64) :
      EndsLine (sample name ending ls value) := endsLine_concat _
  cases kind with
  | gauge => exact hsample _ _ _
  | counter => exact hsample _ _ _
  | histogram =>
    refine EndsLine.append (.append (.append ?_ ?_) (hsample _ _ _)) (hsample _ _ _)
    · exact endsLine_flatMap fun _ _ ↦ hsample _ _ _
    · split
      · exact endsLine_nil
      · exact hsample _ _ _

/-- The comment with the help text, if there is one. -/
def helpText (f : MetricFamily) : List Char :=
  if f.help.isEmpty then []
  else "# HELP ".toList ++ f.name.toList ++ [' '] ++ escapeHelp f.help ++ ['\n']

theorem endsLine_helpText (f : MetricFamily) : EndsLine (helpText f) := by
  unfold helpText
  split
  · exact endsLine_nil
  · exact endsLine_concat _

theorem family_eq (f : MetricFamily) : family f = helpText f ++
    ("# TYPE ".toList ++ f.name.toList ++ [' '] ++ f.kind.text.toList ++ ['\n'] ++
      f.metrics.flatMap (sampleLines f.name f.kind)) := by
  have hheader : header f = helpText f ++
      ("# TYPE ".toList ++ f.name.toList ++ [' '] ++ f.kind.text.toList ++ ['\n']) := by
    unfold header helpText
    simp only [List.append_assoc]
  rw [family, hheader, List.append_assoc]

theorem endsLine_family (f : MetricFamily) : EndsLine (family f) := by
  rw [family_eq]
  refine (endsLine_helpText f).append (.append (endsLine_concat _) ?_)
  exact endsLine_flatMap fun o _ ↦ endsLine_sampleLines f.name f.kind o

/-- A family of one name is read as its comments and the samples of its observations. -/
theorem reads_family (hname : isMetricName f.name.toList = true)
    (hmetrics : ∀ o ∈ f.metrics, o.name = f.name ∧ HasLabelNames o) :
    Reads (family f) (familyLines f) := by
  have hhelp : Reads (helpText f) (if f.help.isEmpty then [] else [.help f.name.toList]) := by
    unfold helpText
    split
    · exact reads_nil
    · exact reads_help hname f.help
  rw [family_eq, familyLines, commentLines, List.append_assoc (ite _ _ _)]
  refine hhelp.append ((reads_type hname f.kind).append (reads_flatMap fun o ho ↦ ?_))
  obtain ⟨hsame, hlabels⟩ := hmetrics o ho
  rw [← hsame] at hname ⊢
  exact reads_sampleLines f.kind hname hlabels

/-! ## Pages that are read -/

/-- Every family has an observation, so all of them are written exactly if each has a name. -/
theorem writable_group_iff : writable (MetricFamily.group observations) =
    MetricFamily.group observations ↔ ∀ o ∈ observations, o.name ≠ "" := by
  rw [writable, List.takeWhile_eq_self_iff]
  constructor
  · intro h o ho
    obtain ⟨f, hf, hname⟩ := List.mem_map.1
      (MetricFamily.mem_names_group.2 (List.mem_map_of_mem ho))
    have hwritten := h f hf
    rw [Bool.and_eq_true, hname] at hwritten
    simpa using hwritten.1
  · intro h f hf
    obtain ⟨first, rest, hmetrics, -⟩ := (MetricFamily.gathers_of_mem_group hf).started
    obtain ⟨o, ho, hname⟩ :=
      List.mem_map.1 (MetricFamily.mem_names_group.1 (List.mem_map_of_mem hf))
    have hne : f.name ≠ "" := hname ▸ h o ho
    simp [hmetrics, hne]

/-- A page of observations with names goes on to its end. -/
theorem render_eq (h : ∀ o ∈ observations, o.name ≠ "") :
    (render observations).toList = (MetricFamily.group observations).flatMap family := by
  rw [render, String.toList_ofList, writable_group_iff.2 h]

theorem of_mem_metrics (hf : f ∈ MetricFamily.group observations) (ho : o ∈ f.metrics) :
    o ∈ observations ∧ o.name = f.name := by
  rw [(MetricFamily.gathers_of_mem_group hf).metrics, List.mem_filter] at ho
  exact ⟨ho.1, of_decide_eq_true ho.2⟩

/-- A page of observations with names is read as the lines of its families. -/
theorem readPage?_render (hnames : ∀ o ∈ observations, isMetricName o.name.toList = true)
    (hlabels : ∀ o ∈ observations, HasLabelNames o) :
    readPage? (render observations).toList = some (pageLines observations) := by
  rw [render_eq]
  · refine (reads_flatMap fun f hf ↦ reads_family ?_ fun o ho ↦ ?_).readPage?
    · obtain ⟨o, ho, hname⟩ :=
        List.mem_map.1 (MetricFamily.mem_names_group.1 (List.mem_map_of_mem hf))
      exact hname ▸ hnames o ho
    · obtain ⟨ho, hname⟩ := of_mem_metrics hf ho
      exact ⟨hname, hlabels o ho⟩
  · rintro o ho hname
    have hvalid := hnames o ho
    rw [hname] at hvalid
    exact absurd hvalid (by decide)

/-- The observation is called something without a blank, and its labels have names. -/
structure IsPlain (o : Observation) : Prop where
  name : o.name ≠ ""
  blank : ' ' ∉ o.name.toList
  labels : HasLabelNames o

/-- A page is read exactly if each of its observations has a name. -/
theorem isSome_readPage?_render_iff (h : ∀ o ∈ observations, IsPlain o) :
    (readPage? (render observations).toList).isSome ↔
      ∀ o ∈ observations, isMetricName o.name.toList = true := by
  constructor
  · intro hread o ho
    obtain ⟨f, hf, hname⟩ := List.mem_map.1
      (MetricFamily.mem_names_group.2 (List.mem_map_of_mem ho))
    rw [render_eq fun o ho ↦ (h o ho).name] at hread
    obtain ⟨before, behind, hgroup⟩ := List.append_of_mem hf
    rw [hgroup, List.flatMap_append, List.flatMap_cons, family_eq, List.append_assoc,
      ← List.append_assoc (before.flatMap family),
      List.append_assoc _ _ (behind.flatMap family)] at hread
    have hbefore : EndsLine (before.flatMap family ++ helpText f) :=
      (endsLine_flatMap fun g _ ↦ endsLine_family g).append (endsLine_helpText f)
    rw [← hname]
    refine isMetricName_of_readPage? hbefore ?_ hread
    rw [hname]
    exact (h o ho).blank
  · intro hnames
    rw [readPage?_render hnames fun o ho ↦ (h o ho).labels]
    rfl

/-! ## The samples of a page -/

/-- The sample of a line, if it is one. -/
def Line.sample? : Line → Option Sample
  | .sample s => some s
  | _ => none

/-- The samples of a page. -/
def pageSamples (page : List Line) : List Sample := page.filterMap Line.sample?

theorem pageSamples_familyLines (f : MetricFamily) :
    pageSamples (familyLines f) = f.metrics.flatMap (samplesAs f.kind) := by
  have hcomments : (commentLines f).filterMap Line.sample? = [] := by
    unfold commentLines
    split <;> rfl
  have hsamples (samples : List Sample) :
      (samples.map Line.sample).filterMap Line.sample? = samples := by
    rw [List.filterMap_map]
    exact List.filterMap_some
  rw [pageSamples, familyLines, List.filterMap_append, hcomments, List.nil_append,
    List.filterMap_flatMap]
  simp only [hsamples]

/-- The kind under which a name is published: that of the first observation of the name. -/
def kindOfName (observations : List Observation) (name : String) : MetricKind :=
  ((observations.find? (·.name = name)).map (·.kind)).getD .gauge

theorem kind_of_mem_group (hf : f ∈ MetricFamily.group observations) :
    f.kind = kindOfName observations f.name := by
  have hgathers := MetricFamily.gathers_of_mem_group hf
  obtain ⟨first, rest, hmetrics, -, hkind⟩ := hgathers.started
  have hfind : observations.find? (·.name = f.name) = some first := by
    rw [← List.head?_filter, ← hgathers.metrics, hmetrics]
    rfl
  rw [kindOfName, hfind]
  exact hkind

/-- The samples of a page are those of its observations, each under the kind of its name. -/
theorem perm_pageSamples (observations : List Observation) :
    (pageSamples (pageLines observations)).Perm
      (observations.flatMap fun o ↦ samplesAs (kindOfName observations o.name) o) := by
  have hsamples : pageSamples (pageLines observations) =
      ((MetricFamily.group observations).flatMap (·.metrics)).flatMap
        fun o ↦ samplesAs (kindOfName observations o.name) o := by
    rw [pageSamples, pageLines, List.filterMap_flatMap, List.flatMap_assoc]
    refine List.flatMap_congr fun f hf ↦ ?_
    refine (pageSamples_familyLines f).trans (List.flatMap_congr fun o ho ↦ ?_)
    rw [kind_of_mem_group hf, (of_mem_metrics hf ho).2]
  rw [hsamples]
  exact (MetricFamily.perm_metrics_group observations).flatMap_right _

/-- No name is that of a histogram and of something else. -/
def KindsAgree (observations : List Observation) : Prop :=
  ∀ o ∈ observations, ∀ o' ∈ observations, o.name = o'.name →
    (o.kind = .histogram ↔ o'.kind = .histogram)

theorem samplesAs_of_ne {kind : MetricKind} (h : kind ≠ .histogram) (o : Observation) :
    samplesAs kind o = [sampleOf o.name "" o.labels o.value] := by
  cases kind with
  | gauge => rfl
  | counter => rfl
  | histogram => exact absurd rfl h

theorem samplesAs_congr {kind kind' : MetricKind} (h : kind = .histogram ↔ kind' = .histogram)
    (o : Observation) : samplesAs kind o = samplesAs kind' o := by
  by_cases hkind : kind = .histogram
  · rw [hkind, h.1 hkind]
  · rw [samplesAs_of_ne hkind, samplesAs_of_ne fun hkind' ↦ hkind (h.2 hkind')]

theorem exists_kindOfName (ho : o ∈ observations) :
    ∃ first ∈ observations, first.name = o.name ∧ kindOfName observations o.name = first.kind := by
  cases hfind : observations.find? (·.name = o.name) with
  | none => simpa using List.find?_eq_none.1 hfind o ho
  | some first =>
    refine ⟨first, List.mem_of_find?_eq_some hfind, ?_, ?_⟩
    · simpa using List.find?_some hfind
    · rw [kindOfName, hfind]
      rfl

theorem kindsAgree_iff : KindsAgree observations ↔
    ∀ o ∈ observations, (kindOfName observations o.name = .histogram ↔ o.kind = .histogram) := by
  constructor
  · intro h o ho
    obtain ⟨first, hfirst, hname, hkind⟩ := exists_kindOfName ho
    rw [hkind]
    exact h first hfirst o ho hname
  · intro h o ho o' ho' hname
    rw [← h o ho, ← h o' ho', hname]

/-! ## Names of one kind -/

/-- The number of samples with the name of a sum. -/
def sumCount (name : List Char) (samples : List Sample) : Nat :=
  samples.countP fun s ↦ s.name = name ++ "_sum".toList

theorem append_ne_append_sum {name : List Char} {ending : String}
    (h : ending.toList.getLast? = some 't') (cs : List Char) :
    cs ++ ending.toList ≠ name ++ "_sum".toList := by
  intro heq
  have hlast := congrArg List.getLast? heq
  rw [List.getLast?_append, List.getLast?_append, h] at hlast
  change some 't' = some 'm' at hlast
  exact absurd hlast (by decide)

theorem sumCount_bucketSamples (n : List Char) (name : String) (ls : List (String × String))
    (h : Histogram) : sumCount n (bucketSamples name ls h) = 0 := by
  refine List.countP_eq_zero.2 fun s hs ↦ ?_
  have hname : s.name = name.toList ++ "_bucket".toList := by
    unfold bucketSamples at hs
    rcases List.mem_append.1 hs with hs | hs
    · obtain ⟨b, -, rfl⟩ := List.mem_map.1 hs
      rfl
    · split at hs
      · cases hs
      · rw [List.mem_singleton.1 hs]
        rfl
  rw [hname, decide_eq_true_eq]
  exact append_ne_append_sum (by decide) _

/-- An observation has a sample with the name of a sum as a histogram of that name, or under the
name itself. -/
theorem sumCount_samplesAs (n : List Char) (kind : MetricKind) (o : Observation) :
    sumCount n (samplesAs kind o) =
      if kind = .histogram then if o.name.toList = n then 1 else 0
      else if o.name.toList = n ++ "_sum".toList then 1 else 0 := by
  have hplain : sumCount n [sampleOf o.name "" o.labels o.value] =
      if o.name.toList = n ++ "_sum".toList then 1 else 0 := by
    have hname : o.name.toList ++ "".toList = o.name.toList := List.append_nil _
    rw [sumCount, List.countP_singleton, sampleOf, hname]
    simp only [decide_eq_true_eq]
  by_cases hkind : kind = .histogram
  · rw [hkind]
    have hsum : (o.name.toList ++ "_sum".toList = n ++ "_sum".toList) ↔ o.name.toList = n :=
      List.append_left_inj _
    have hcount : o.name.toList ++ "_count".toList ≠ n ++ "_sum".toList :=
      append_ne_append_sum (by decide) _
    have hbuckets := sumCount_bucketSamples n o.name o.labels (o.histogram.getD ⟨0, []⟩)
    rw [if_pos rfl, samplesAs]
    unfold sumCount at hbuckets ⊢
    rw [List.countP_append, hbuckets, Nat.zero_add, List.countP_cons, List.countP_singleton]
    simp only [sampleOf, hsum, hcount, decide_eq_true_eq, decide_false, Bool.false_eq_true,
      if_false, Nat.zero_add]
  · rw [if_neg hkind, samplesAs_of_ne hkind]
    exact hplain

/-- Under the name itself only a histogram has a sum. -/
theorem sumCount_samplesAs_self (kind : MetricKind) (o : Observation) :
    sumCount o.name.toList (samplesAs kind o) = if kind = .histogram then 1 else 0 := by
  have hne : o.name.toList ≠ o.name.toList ++ "_sum".toList := by simp
  rw [sumCount_samplesAs, if_pos rfl, if_neg hne]

/-- Under another name the kind matters only where the name is that of the sum. -/
theorem sumCount_samplesAs_of_ne {n : List Char} (hne : o.name.toList ≠ n)
    {kind kind' : MetricKind} (h : o.name.toList = n ++ "_sum".toList →
      (kind = .histogram ↔ kind' = .histogram)) :
    sumCount n (samplesAs kind o) = sumCount n (samplesAs kind' o) := by
  by_cases hsum : o.name.toList = n ++ "_sum".toList
  · rw [samplesAs_congr (h hsum)]
  · rw [sumCount_samplesAs, sumCount_samplesAs, if_neg hne, if_neg hsum, ite_self, ite_self]

theorem sumCount_flatMap (n : List Char) (observations : List Observation)
    (samples : Observation → List Sample) : sumCount n (observations.flatMap samples) =
      (observations.map fun o ↦ sumCount n (samples o)).sum := by
  rw [sumCount, List.countP_flatMap]
  rfl

theorem eq_of_sum_eq {α : Type} {l : List α} {f g : α → Nat} (hle : ∀ a ∈ l, f a ≤ g a)
    (hsum : (l.map f).sum = (l.map g).sum) : ∀ a ∈ l, f a = g a := by
  induction l with
  | nil => exact nofun
  | cons a l ih =>
    obtain ⟨ha, hl⟩ := List.forall_mem_cons.1 hle
    have hrest := List.sum_le_sum hl
    rw [List.map_cons, List.map_cons, List.sum_cons, List.sum_cons] at hsum
    exact List.forall_mem_cons.2 ⟨by omega, ih hl (by omega)⟩

/-- With the kinds of all longer names agreeing, those of a name agree: the samples with the name
of its sum are as many as they should be. -/
theorem kind_iff_of_longer
    (hperm : (observations.flatMap fun o ↦ samplesAs (kindOfName observations o.name) o).Perm
      (observations.flatMap samplesOf)) {n : String}
    (hlonger : ∀ o ∈ observations, o.name.toList = n.toList ++ "_sum".toList →
      (kindOfName observations o.name = .histogram ↔ o.kind = .histogram)) :
    ∀ o ∈ observations, o.name = n →
      (kindOfName observations n = .histogram ↔ o.kind = .histogram) := by
  have hsum := hperm.countP_eq fun s ↦ s.name = n.toList ++ "_sum".toList
  change sumCount n.toList _ = sumCount n.toList _ at hsum
  rw [sumCount_flatMap, sumCount_flatMap] at hsum
  have hother : ∀ o ∈ observations, o.name ≠ n →
      sumCount n.toList (samplesAs (kindOfName observations o.name) o) =
        sumCount n.toList (samplesOf o) := fun o ho hname ↦
    sumCount_samplesAs_of_ne (fun h ↦ hname (String.toList_inj.1 h)) (hlonger o ho)
  have heq : ∀ o ∈ observations, sumCount n.toList (samplesAs (kindOfName observations o.name) o) =
      sumCount n.toList (samplesOf o) := by
    by_cases hkind : kindOfName observations n = .histogram
    · -- All observations of the name have a sum on the page, so all call for one.
      refine fun o ho ↦ (eq_of_sum_eq (fun o ho ↦ ?_) hsum.symm o ho).symm
      by_cases hname : o.name = n
      · rw [samplesOf, ← hname, sumCount_samplesAs_self, sumCount_samplesAs_self, hname,
          if_pos hkind]
        split <;> omega
      · exact (hother o ho hname).ge
    · refine eq_of_sum_eq (fun o ho ↦ ?_) hsum
      by_cases hname : o.name = n
      · rw [← hname, sumCount_samplesAs_self, hname, if_neg hkind]
        exact Nat.zero_le _
      · exact (hother o ho hname).le
  intro o ho hname
  have hsame := heq o ho
  rw [samplesOf, ← hname, sumCount_samplesAs_self, sumCount_samplesAs_self, hname] at hsame
  by_cases hkind : o.kind = .histogram
  · rw [if_pos hkind] at hsame
    exact iff_of_true (by simpa using hsame) hkind
  · rw [if_neg hkind] at hsame
    exact iff_of_false (by simpa using hsame) hkind

/-- The samples of a page are those that its observations call for exactly if no name is that of a
histogram and of something else. -/
theorem perm_samplesOf_iff : (pageSamples (pageLines observations)).Perm
    (observations.flatMap samplesOf) ↔ KindsAgree observations := by
  rw [(perm_pageSamples observations).congr_left]
  constructor
  · intro hperm
    rw [kindsAgree_iff]
    -- Down from the longest names, since the name of a sum is longer than that of its histogram.
    obtain ⟨bound, hbound⟩ : ∃ bound, ∀ o ∈ observations, o.name.toList.length < bound := by
      refine ⟨(observations.map (·.name.toList.length)).sum + 1, fun o ho ↦ Nat.lt_succ_of_le ?_⟩
      exact List.single_le_sum (fun _ _ ↦ Nat.zero_le _) _ (List.mem_map_of_mem ho)
    have hdown : ∀ k, ∀ o ∈ observations, bound ≤ o.name.toList.length + k →
        (kindOfName observations o.name = .histogram ↔ o.kind = .histogram) := by
      intro k
      induction k with
      | zero =>
        intro o ho hle
        have hlt := hbound o ho
        omega
      | succ k ih =>
        intro o ho hle
        refine kind_iff_of_longer hperm (fun o' ho' hsum ↦ ih o' ho' ?_) o ho rfl
        rw [hsum, List.length_append]
        change bound ≤ o.name.toList.length + 4 + k
        omega
    exact fun o ho ↦ hdown bound o ho (Nat.le_add_left _ _)
  · intro hagree
    rw [kindsAgree_iff] at hagree
    rw [List.flatMap_congr fun o ho ↦ samplesAs_congr (hagree o ho) o]
    exact .refl _

/-- The text is read to its end, every line of it is about a name, and its samples are those that
the observations call for. -/
def IsFaithful (text : String) (observations : List Observation) : Prop :=
  ∃ page, readPage? text.toList = some page ∧ (∀ line ∈ page, isMetricName line.name = true) ∧
    (pageSamples page).Perm (observations.flatMap samplesOf)

/-- A page is faithful exactly if it is read and no name is that of a histogram and of something
else. -/
theorem isFaithful_render_iff (h : ∀ o ∈ observations, IsPlain o) :
    IsFaithful (render observations) observations ↔
      (readPage? (render observations).toList).isSome ∧ KindsAgree observations := by
  rw [isSome_readPage?_render_iff h]
  have hread (hnames : ∀ o ∈ observations, isMetricName o.name.toList = true) :=
    readPage?_render hnames fun o ho ↦ (h o ho).labels
  constructor
  · rintro ⟨page, hpage, -, hperm⟩
    have hnames := (isSome_readPage?_render_iff h).1 (by rw [hpage]; rfl)
    rw [hread hnames] at hpage
    obtain rfl := Option.some.inj hpage
    exact ⟨hnames, perm_samplesOf_iff.1 hperm⟩
  · rintro ⟨hnames, hagree⟩
    exact ⟨_, hread hnames, isMetricName_of_mem_page (hread hnames), perm_samplesOf_iff.2 hagree⟩

end Telemetry.Exposition
