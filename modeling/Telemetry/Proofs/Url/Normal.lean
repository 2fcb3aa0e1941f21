import Telemetry.Proofs.Url.Authority
import Telemetry.Proofs.Url.Path

/-!
# Urls that are read back

A url is normal when everything in it is as it is shown: its scheme is in small letters, its parts
are encoded, its host and its path stand as they are, and its port is one that has to be written
(`IsNormal`). The text of a normal url is read back to the url (`IsNormal.readChars_textChars`): no
character of a part is a mark of the parts behind it, and none is dropped.

A normal url stays normal with another user name or password.
-/

namespace Telemetry.Url

open Text (takeWhile_append dropWhile_append)

variable {m : Manner} {u : Url} {cs rest : List Char}

/-! ## Urls that stay as they are -/

/-- What the query of a url cannot hold. -/
def querySet (m : Manner) : Percent.EncodeSet :=
  if m = .other then Percent.query else Percent.webQuery

/-- A scheme as it may be written, in letters of either case. -/
structure SpellsScheme (scheme : List Char) : Prop where
  head : ∃ first more, scheme = first :: more ∧ first.isAlpha = true
  char : ∀ c ∈ scheme, isSchemeChar c = true

/-- A scheme in small letters. -/
structure IsScheme (scheme : List Char) : Prop where
  head : ∃ first more, scheme = first :: more ∧ first.isAlpha = true
  char : ∀ c ∈ scheme, isSchemeChar c = true ∧ c.toLower = c

/-- A url in which everything is as it is shown. -/
structure IsNormal (m : Manner) (u : Url) : Prop where
  manner_eq : mannerOf u.scheme = m
  scheme : IsScheme u.scheme
  username : Percent.IsPlain Percent.userInfo u.username
  password : Percent.IsPlain Percent.userInfo u.password
  host : ∃ host, u.host = some host ∧ host.Stands (hostReader m)
  port_le : ∀ n, u.port = some n → n ≤ 65535
  port_unusual : u.port = usualPort? u.scheme → u.port = none
  path : IsPath m u.path
  query : ∀ cs, u.query = some cs → Percent.IsPlain (querySet m) cs
  fragment : ∀ cs, u.fragment = some cs → Percent.IsPlain Percent.fragment cs

theorem authority_eq (u : Url) : authority u =
    userInfo u.username u.password ++ ((u.host.map Host.text).getD [] ++ portText u.port) := by
  unfold authority
  rw [List.append_assoc]
  cases u.port <;> rfl

/-- A character that neither is dropped nor ends what stands before the path. -/
def IsInner (c : Char) : Prop := 0x20 < c.toNat ∧ c ∉ ['/', '\\', '?', '#']

theorem isInner_of_mem_portText {port : Option Nat} {c : Char} (h : c ∈ portText port) :
    IsInner c ∧ c ≠ '@' := by
  have hdigit : ∀ c : Char, c.isDigit = true → IsInner c ∧ c ≠ '@' := by
    intro c hc
    have hascii : c.toNat < 0x80 := Text.ascii_of_isAlphanum (Bool.or_eq_true_iff.2 (.inr hc))
    refine Text.forall_ascii (p := fun c ↦ c.isDigit = true → IsInner c ∧ c ≠ '@') ?_ hascii hc
    unfold IsInner
    decide
  cases port with
  | none => simp [portText] at h
  | some n =>
    rcases List.mem_cons.1 h with rfl | h
    · unfold IsInner
      decide
    · exact hdigit c (Text.isDigit_of_mem_decimalDigits h)

theorem IsNormal.isInner_of_mem_authority (h : IsNormal m u) {c : Char} (hc : c ∈ authority u) :
    IsInner c := by
  obtain ⟨host, hhost, hstands⟩ := h.host
  have huser {cs : List Char} (hcs : Percent.IsPlain Percent.userInfo cs) (hc : c ∈ cs) :
      IsInner c := by
    obtain ⟨hvisible, hmark⟩ := of_plain_userInfo (hcs c hc)
    exact ⟨hvisible, fun hmem ↦ hmark (List.mem_append_left ['@', ':'] hmem)⟩
  rw [authority_eq, hhost, List.mem_append, List.mem_append] at hc
  rcases hc with hc | hc | hc
  · rw [userInfo_eq] at hc
    split at hc
    · simp at hc
    · simp only [userText, List.mem_append, List.mem_singleton] at hc
      rcases hc with (hc | hc) | rfl
      · exact huser h.username hc
      · split at hc
        · simp at hc
        · rcases List.mem_cons.1 hc with rfl | hc
          · unfold IsInner
            decide
          · exact huser h.password hc
      · unfold IsInner
        decide
  · obtain ⟨hvisible, hmark⟩ := hstands.safe c hc
    exact ⟨hvisible, fun hmem ↦ hmark (List.mem_append_left ['@'] hmem)⟩
  · exact (isInner_of_mem_portText hc).1

/-- What stands before the path is read back. -/
theorem IsNormal.readAuthority_authority (h : IsNormal m u) (ended : Bool) :
    readAuthority m u.scheme (authority u) ended =
      .ok ({ scheme := u.scheme, username := u.username, password := u.password, host := u.host,
             port := u.port }, []) := by
  obtain ⟨host, hhost, hstands⟩ := h.host
  have hat : ∀ c ∈ host.text ++ portText u.port, c ≠ '@' := by
    intro c hc
    rcases List.mem_append.1 hc with hc | hc
    · have hmark := (hstands.safe c hc).2
      simp only [List.mem_cons, not_or] at hmark
      exact hmark.2.2.2.2.1
    · exact (isInner_of_mem_portText hc).2
  -- With no `@` behind it the user is split off whole, and the port then from the host.
  obtain ⟨hrest, hpassword⟩ := splitUser_userInfo h.username h.password hat
  have hsplit := hstands.splitPort_text _ (isPortText_portText u.port)
  have hport : (if u.port = usualPort? u.scheme then none else u.port) = u.port := by
    split
    · next husual => rw [h.port_unusual husual]
    · rfl
  rw [authority_eq, hhost]
  change readAuthority m u.scheme
    (userInfo u.username u.password ++ (host.text ++ portText u.port)) ended = _
  rw [readAuthority_of_host m u.scheme ended (by rw [hrest, hsplit]; exact hstands.ne_nil), hrest,
    hsplit, hpassword, hstands.read_text]
  dsimp only
  rw [readPortText_portText h.port_le]
  change Except.ok (Url.mk _ _ _ _ (if u.port = usualPort? u.scheme then none else u.port) _ _ _,
    []) = _
  rw [hport]

/-! ## What is shown behind the path -/

/-- What follows the path. -/
def tailText (u : Url) : List Char := marked '?' u.query ++ marked '#' u.fragment

theorem marked_eq_nil_or (mark : Char) (part : Option (List Char)) :
    marked mark part = [] ∨ ∃ cs, marked mark part = mark :: cs := by
  cases part with
  | none => exact .inl rfl
  | some cs => exact .inr ⟨cs, rfl⟩

/-- What follows the path begins with a mark that ends it. -/
theorem endsPath_of_head_tailText {c : Char} (hc : c ∈ (tailText u).head?) :
    endsPath c = true := by
  unfold tailText at hc
  rcases marked_eq_nil_or '?' u.query with hquery | ⟨cs, hquery⟩ <;> rw [hquery] at hc
  · rcases marked_eq_nil_or '#' u.fragment with hfragment | ⟨cs, hfragment⟩ <;>
      rw [hfragment] at hc
    · simp at hc
    · obtain rfl : '#' = c := Option.some.inj hc
      rfl
  · obtain rfl : '?' = c := Option.some.inj hc
    rfl

theorem of_plain_query {c : Char} (h : c.toNat < 0x80 ∧ querySet m c = false) :
    0x20 < c.toNat ∧ c ≠ '#' := by
  have hall : ∀ n < 0x80, querySet m (Char.ofNat n) = false →
      0x20 < (Char.ofNat n).toNat ∧ Char.ofNat n ≠ '#' := by
    cases m <;> decide
  exact Text.forall_ascii (p := fun c ↦ querySet m c = false → 0x20 < c.toNat ∧ c ≠ '#') hall h.1
    h.2

theorem of_plain_fragment {c : Char} (h : c.toNat < 0x80 ∧ Percent.fragment c = false) :
    0x20 < c.toNat :=
  Text.forall_ascii (p := fun c ↦ Percent.fragment c = false → 0x20 < c.toNat) (by decide) h.1 h.2

/-- Query and fragment are read back from what follows the path. -/
theorem IsNormal.withTail_tailText (h : IsNormal m u) (v : Url) :
    withTail m v (tailText u) = { v with query := u.query, fragment := u.fragment } := by
  have hquery : (tailText u).takeWhile (· ≠ '#') = marked '?' u.query := by
    refine takeWhile_append (fun c hc ↦ decide_eq_true ?_) fun c hc ↦ ?_
    · cases hq : u.query with
      | none => simp [hq, marked] at hc
      | some cs =>
        rw [hq] at hc
        rcases List.mem_cons.1 hc with rfl | hc
        · decide
        · exact (of_plain_query (h.query cs hq c hc)).2
    · cases hf : u.fragment with
      | none => simp [hf, marked] at hc
      | some cs =>
        rw [hf] at hc
        obtain rfl : '#' = c := Option.some.inj hc
        decide
  unfold withTail
  dsimp only
  rw [hquery, tailText, List.drop_left]
  congr 1
  · cases hq : u.query with
    | none => rfl
    | some cs => exact congrArg some (Percent.encode_of_isPlain (h.query cs hq))
  · cases hf : u.fragment with
    | none => rfl
    | some cs => exact congrArg some (Percent.encode_of_isPlain (h.fragment cs hf))

/-! ## The whole text -/

theorem endsAuthority_of_isInner {c : Char} (h : IsInner c) : endsAuthority m c = false := by
  have hmark := h.2
  simp only [List.mem_cons, not_or] at hmark
  simp [endsAuthority, endsPath, isSlash, hmark]

theorem IsNormal.stops_path (h : IsNormal m u) :
    Stops (!endsAuthority m ·) (pathText u.path ++ tailText u) := by
  intro c hc
  rcases pathText_eq_nil_or h.path with hpath | ⟨cs, hpath⟩ <;> rw [hpath] at hc
  · simp [endsAuthority, endsPath_of_head_tailText hc]
  · obtain rfl : '/' = c := Option.some.inj hc
    simp [endsAuthority, isSlash]

/-- What follows the two slashes does not begin with a slash itself. -/
theorem IsNormal.stops_authority (h : IsNormal m u) :
    Stops (isSlash m) (authority u ++ rest) := by
  obtain ⟨host, hhost, hstands⟩ := h.host
  have hne : authority u ≠ [] := by
    rw [authority_eq, hhost]
    simp [hstands.ne_nil]
  obtain ⟨c, cs, hcs⟩ := List.exists_cons_of_ne_nil hne
  intro d hd
  rw [hcs] at hd
  obtain rfl : c = d := Option.some.inj hd
  have hinner := h.isInner_of_mem_authority (c := c) (by rw [hcs]; exact List.mem_cons_self)
  have hends := endsAuthority_of_isInner (m := m) hinner
  rw [endsAuthority, Bool.or_eq_false_iff] at hends
  exact hends.1

/-- What follows the two slashes is read back. -/
theorem IsNormal.readHosted_text (h : IsNormal m u) (hm : m ≠ .file) :
    readHosted m u.scheme (authority u ++ (pathText u.path ++ tailText u)) = .ok u := by
  have hauthority : (authority u ++ (pathText u.path ++ tailText u)).takeWhile
      (!endsAuthority m ·) = authority u :=
    takeWhile_append (fun c hc ↦ by
      rw [endsAuthority_of_isInner (h.isInner_of_mem_authority hc)]; rfl) h.stops_path
  have hpath : (pathText u.path ++ tailText u).takeWhile (!endsPath ·) = pathText u.path :=
    takeWhile_append (fun c hc ↦ by rw [(of_mem_pathText h.path hc).2]; rfl)
      fun c hc ↦ by rw [endsPath_of_head_tailText hc]; rfl
  unfold readHosted
  dsimp only
  rw [hauthority, List.drop_left, h.readAuthority_authority]
  change Except.ok (withTail m _ _) = _
  dsimp only [List.nil_append]
  rw [hpath, List.drop_left, h.withTail_tailText, readPath_pathText hm h.path]

/-- Nothing is dropped from a text without blanks and control characters. -/
theorem significant_of_visible (h : ∀ c ∈ cs, 0x20 < c.toNat) : significant cs = cs := by
  have hmargin : ∀ c ∈ cs, isMargin c = false := fun c hc ↦
    decide_eq_false (Nat.not_le.2 (h c hc))
  have hignored : ∀ c ∈ cs, (!isIgnored c) = true := by
    intro c hc
    have hne {d : Char} (hd : d.toNat ≤ 0x20) : c ≠ d := by
      rintro rfl
      exact Nat.not_le.2 (h c hc) hd
    simp [isIgnored, hne (d := '\t') (by decide), hne (d := '\n') (by decide),
      hne (d := '\r') (by decide)]
  have hdrop {ds : List Char} (hds : ∀ c ∈ ds, isMargin c = false) :
      ds.dropWhile isMargin = ds := by
    cases ds with
    | nil => rfl
    | cons d ds => exact List.dropWhile_cons_of_neg (Bool.eq_false_iff.1 (hds d List.mem_cons_self))
  unfold significant Text.dropRightWhile
  rw [hdrop hmargin, hdrop fun c hc ↦ hmargin c (List.mem_reverse.1 hc), List.reverse_reverse,
    List.filter_eq_self.2 hignored]

theorem textChars_eq (h : u.host.isSome) : u.textChars =
    u.scheme ++ ':' :: '/' :: '/' :: (authority u ++ (pathText u.path ++ tailText u)) := by
  unfold textChars tailText
  rw [if_pos h]
  simp

theorem IsNormal.visible (h : IsNormal m u) : ∀ c ∈ u.textChars, 0x20 < c.toNat := by
  have hscheme : ∀ c, isSchemeChar c = true → 0x20 < c.toNat := by
    intro c hc
    by_cases hascii : c.toNat < 0x80
    · exact Text.forall_ascii (p := fun c ↦ isSchemeChar c = true → 0x20 < c.toNat) (by decide)
        hascii hc
    · omega
  have hmarked {mark : Char} (hmark : 0x20 < mark.toNat) {part : Option (List Char)}
      (hpart : ∀ cs, part = some cs → ∀ c ∈ cs, 0x20 < c.toNat) :
      ∀ c ∈ marked mark part, 0x20 < c.toNat := by
    intro c hc
    cases part with
    | none => simp [marked] at hc
    | some cs =>
      rcases List.mem_cons.1 hc with rfl | hc
      · exact hmark
      · exact hpart cs rfl c hc
  obtain ⟨host, hhost, -⟩ := h.host
  intro c hc
  rw [textChars_eq (by rw [hhost]; rfl)] at hc
  simp only [List.mem_append, List.mem_cons] at hc
  rcases hc with hc | rfl | rfl | rfl | hc | hc | hc
  · exact hscheme c (h.scheme.char c hc).1
  · decide
  · decide
  · decide
  · exact (h.isInner_of_mem_authority hc).1
  · exact (of_mem_pathText h.path hc).1
  · rcases List.mem_append.1 hc with hc | hc
    · exact hmarked (by decide) (fun cs hq c hc ↦ (of_plain_query (h.query cs hq c hc)).1) c hc
    · exact hmarked (by decide) (fun cs hf c hc ↦ of_plain_fragment (h.fragment cs hf c hc)) c hc

/-- A scheme is read from before its colon, in small letters. -/
theorem SpellsScheme.readScheme? {scheme : List Char} (h : SpellsScheme scheme)
    (rest : List Char) :
    readScheme? (scheme ++ ':' :: rest) = some (scheme.map Char.toLower, rest) := by
  obtain ⟨first, more, hscheme, halpha⟩ := h.head
  have htake : (scheme ++ ':' :: rest).takeWhile isSchemeChar = scheme := by
    refine takeWhile_append h.char fun c hc ↦ ?_
    obtain rfl : ':' = c := Option.some.inj hc
    decide
  unfold Url.readScheme?
  dsimp only
  rw [htake, List.drop_left]
  rw [hscheme]
  exact if_pos halpha

theorem IsNormal.readScheme? (h : IsNormal m u) (rest : List Char) :
    readScheme? (u.scheme ++ ':' :: rest) = some (u.scheme, rest) := by
  have hlower : u.scheme.map Char.toLower = u.scheme :=
    (List.map_congr_left fun c hc ↦ (h.scheme.char c hc).2).trans (List.map_id u.scheme)
  have hspells : SpellsScheme u.scheme := ⟨h.scheme.head, fun c hc ↦ (h.scheme.char c hc).1⟩
  rw [hspells.readScheme?, hlower]

/-- A normal url is read back from its text. -/
theorem IsNormal.readChars_textChars (h : IsNormal m u) (hm : m ≠ .file) :
    readChars u.textChars = .ok u := by
  obtain ⟨host, hhost, hstands⟩ := h.host
  have hread := h.readHosted_text hm
  unfold readChars
  rw [significant_of_visible h.visible, textChars_eq (by rw [hhost]; rfl), h.readScheme?]
  dsimp only
  rw [h.manner_eq]
  cases m with
  | web =>
    dsimp only
    -- Here any number of slashes is skipped, so the host must not begin with one.
    have htwo : ['/', '/'].all (isSlash .web) = true := by decide
    have hslashes : ('/' :: '/' :: (authority u ++ (pathText u.path ++ tailText u))).dropWhile
        (isSlash .web) = authority u ++ (pathText u.path ++ tailText u) :=
      dropWhile_append (List.all_eq_true.1 htwo) h.stops_authority
    rw [hslashes]
    exact hread
  | file => exact absurd rfl hm
  | other => exact hread

/-! ## Other credentials -/

theorem IsNormal.withUsername (h : IsNormal m u) (name : String) :
    IsNormal m (u.withUsername name) :=
  { h with username := Percent.sparesEscapes_userInfo.isPlain_encode name.toList }

theorem IsNormal.withPassword (h : IsNormal m u) (password : String) :
    IsNormal m (u.withPassword password) :=
  { h with password := Percent.sparesEscapes_userInfo.isPlain_encode password.toList }

end Telemetry.Url
