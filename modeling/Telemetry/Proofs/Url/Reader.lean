import Telemetry.Proofs.Url.Normal

/-!
# Urls that were read

What is read from a text is normal, if it is a url with a host and no file address
(`isNormal_of_readChars`): reading brings each part into the form in which it stays.
-/

namespace Telemetry.Url

variable {m : Manner} {u : Url} {cs rest more : List Char}

/-! ## What is read is normal -/

theorem sparesEscapes_querySet (m : Manner) : Percent.SparesEscapes (querySet m) := by
  unfold querySet
  split
  · exact Percent.sparesEscapes_query
  · exact Percent.sparesEscapes_webQuery

theorem withTail_spec (m : Manner) (v : Url) (tail : List Char) :
    ∃ query fragment, withTail m v tail = { v with query := query, fragment := fragment } ∧
      (∀ cs, query = some cs → Percent.IsPlain (querySet m) cs) ∧
      ∀ cs, fragment = some cs → Percent.IsPlain Percent.fragment cs := by
  refine ⟨_, _, rfl, fun cs hcs ↦ ?_, fun cs hcs ↦ ?_⟩
  · split at hcs
    · cases hcs
      exact (sparesEscapes_querySet m).isPlain_encode _
    · cases hcs
  · split at hcs
    · cases hcs
      exact Percent.sparesEscapes_fragment.isPlain_encode _
    · cases hcs

/-- A port that is read is at most `65535`. -/
theorem le_of_readPortText {text : List Char} {port : Option Nat}
    (h : readPortText text = .ok (port, more)) : ∀ n, port = some n → n ≤ 65535 := by
  unfold readPortText at h
  split at h
  · next digits =>
    unfold readPort at h
    obtain ⟨hle, h⟩ := ite_error_eq_ok_iff.1 h
    have hvalue {p : Prop} [Decidable p] {n : Nat} (hn : (if p then none
        else some (Decimal.value (digits.takeWhile Decimal.isDigit))) = some n) : n ≤ 65535 := by
      split at hn
      · cases hn
      · cases hn
        exact Nat.not_lt.1 hle
    rintro n rfl
    split at h
    · exact hvalue (Prod.mk.inj (Except.ok.inj h)).1
    · exact hvalue (Prod.mk.inj (Except.ok.inj h)).1
    · cases h
  · cases h
    simp

theorem stands_of_hostReader {host : Host} (h : hostReader m cs = .ok host) (hne : cs ≠ []) :
    host.Stands (hostReader m) := by
  unfold hostReader at h ⊢
  split at h
  · next hweb =>
    rw [if_pos hweb]
    exact Host.stands_of_readWeb h
  · next hweb =>
    rw [if_neg hweb]
    exact Host.stands_of_read h hne

/-- What stands before the path is read into normal parts. -/
theorem spec_of_readAuthority {scheme : List Char} {ended : Bool}
    (h : readAuthority m scheme cs ended = .ok (u, more)) (hhost : u.host.isSome) :
    ∃ username password host port,
      u = { scheme := scheme, username := username, password := password, host := some host,
            port := port } ∧
      Percent.IsPlain Percent.userInfo username ∧ Percent.IsPlain Percent.userInfo password ∧
      host.Stands (hostReader m) ∧ (∀ n, port = some n → n ≤ 65535) ∧
      (port = usualPort? scheme → port = none) := by
  have hne := splitPort_ne_nil_of_readAuthority h hhost
  rw [readAuthority_of_host m scheme ended hne] at h
  obtain ⟨host, hread, h⟩ := bind_eq_ok_iff.1 h
  obtain ⟨⟨port, left⟩, hport, h⟩ := bind_eq_ok_iff.1 h
  cases h
  refine ⟨_, _, host, _, rfl, Percent.sparesEscapes_userInfo.isPlain_encode _,
    Percent.sparesEscapes_userInfo.isPlain_encode _, stands_of_hostReader hread hne, ?_, ?_⟩
  · intro n hn
    split at hn
    · cases hn
    · exact le_of_readPortText hport n hn
  · split
    · exact fun _ ↦ rfl
    · next husual => exact fun h ↦ absurd h husual

/-- What follows the two slashes of a url with a host is read into a normal url. -/
theorem isNormal_of_readHosted (hm : m ≠ .file) {scheme : List Char} (hscheme : IsScheme scheme)
    (hmanner : mannerOf scheme = m) (h : readHosted m scheme cs = .ok u) (hhost : u.host.isSome) :
    IsNormal m u := by
  obtain ⟨⟨v, more⟩, hv, h⟩ := bind_eq_ok_iff.1 h
  dsimp only at h
  have hpath := isPath_readPath hm ((more ++ cs.drop (cs.takeWhile
    (!endsAuthority m ·)).length).takeWhile (!endsPath ·))
  generalize readPath m _ = path at h hpath
  obtain ⟨query, fragment, htail, hquery, hfragment⟩ := withTail_spec m { v with path := path }
    ((more ++ cs.drop (cs.takeWhile (!endsAuthority m ·)).length).drop ((more ++ cs.drop
      (cs.takeWhile (!endsAuthority m ·)).length).takeWhile (!endsPath ·)).length)
  rw [htail] at h
  cases h
  obtain ⟨username, password, host, port, rfl, hname, hpassword, hstands, hle, husual⟩ :=
    spec_of_readAuthority hv hhost
  exact ⟨hmanner, hscheme, hname, hpassword, ⟨host, rfl, hstands⟩, hle, husual, hpath, hquery,
    hfragment⟩

/-! ## The scheme -/

theorem ascii_of_isSchemeChar {c : Char} (h : isSchemeChar c = true) : c.toNat < 0x80 := by
  simp only [isSchemeChar, Bool.or_eq_true, decide_eq_true_eq] at h
  rcases h with ((h | rfl) | rfl) | rfl
  · exact Text.ascii_of_isAlphanum h
  · decide
  · decide
  · decide

/-- The scheme that is split off is in small letters. -/
theorem isScheme_of_readScheme? {scheme : List Char} (h : readScheme? cs = some (scheme, rest)) :
    IsScheme scheme := by
  have hlower : ∀ c, isSchemeChar c = true →
      isSchemeChar c.toLower = true ∧ c.toLower.toLower = c.toLower := fun c hc ↦
    Text.forall_ascii (p := fun c ↦ isSchemeChar c = true →
      isSchemeChar c.toLower = true ∧ c.toLower.toLower = c.toLower) (by decide)
      (ascii_of_isSchemeChar hc) hc
  have halpha : ∀ c, isSchemeChar c = true → c.isAlpha = true → c.toLower.isAlpha = true :=
    fun c hc ↦ Text.forall_ascii (p := fun c ↦ c.isAlpha = true → c.toLower.isAlpha = true)
      (by decide) (ascii_of_isSchemeChar hc)
  have hchar : ∀ c ∈ cs.takeWhile isSchemeChar, isSchemeChar c = true := fun c hc ↦
    List.mem_takeWhile_imp hc
  unfold readScheme? at h
  dsimp only at h
  generalize cs.takeWhile isSchemeChar = written at h hchar
  split at h
  · next first more _ _ =>
    split at h
    · next hfirst =>
      cases h
      refine ⟨⟨_, _, List.map_cons, halpha first (hchar first List.mem_cons_self) hfirst⟩, ?_⟩
      intro c hc
      obtain ⟨d, hd, rfl⟩ := List.mem_map.1 hc
      exact hlower d (hchar d hd)
    · cases h
  · cases h

theorem scheme_of_mannerOf {scheme : List Char} (h : mannerOf scheme = .file) :
    scheme = "file".toList := by
  unfold mannerOf at h
  dsimp only at h
  split at h
  · next hname => rw [← hname, String.toList_ofList]
  · split at h <;> cases h

theorem scheme_of_readFile {scheme : List Char} (h : readFile scheme cs = .ok u) :
    u.scheme = scheme := by
  unfold readFile at h
  dsimp only at h
  generalize (if isDrive _ = true then [] else _) = hostText at h
  split at h
  · cases h
    rfl
  · obtain ⟨host, -, h⟩ := bind_eq_ok_iff.1 h
    cases h
    rfl

/-- A url with a host that can carry a user is normal. -/
theorem isNormal_of_readChars (h : readChars cs = .ok u) (huser : u.takesUser = true) :
    ∃ m, m ≠ .file ∧ IsNormal m u := by
  rw [takesUser, Bool.and_eq_true, decide_eq_true_eq] at huser
  obtain ⟨hhost, hfile⟩ := huser
  unfold readChars at h
  split at h
  · cases h
  · next scheme rest hread =>
    have hscheme := isScheme_of_readScheme? hread
    split at h
    · next hmanner =>
      exact ⟨.web, by decide, isNormal_of_readHosted (by decide) hscheme hmanner h hhost⟩
    · next hmanner =>
      exact absurd ((scheme_of_readFile h).trans (scheme_of_mannerOf hmanner)) hfile
    · next hmanner =>
      split at h
      · exact ⟨.other, by decide,
          isNormal_of_readHosted (by decide) (isScheme_of_readScheme? hread) hmanner h hhost⟩
      · cases h
        cases hhost

end Telemetry.Url
