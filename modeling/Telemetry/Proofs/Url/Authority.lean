import Telemetry.Proofs.Number.Decimal
import Telemetry.Proofs.Text.Prefix
import Telemetry.Proofs.Url.Host

/-!
# What stands before the path of a url

User name, password, host and port are read back from their text. The user ends at the last `@`,
the user name at the first colon before it, the host at the first colon outside of brackets; each
part ends there because its characters are encoded and none of them is such a mark.
-/

namespace Telemetry.Url

open Text (takeWhile_append dropWhile_append)

variable {m : Manner} {u : Url} {cs rest more : List Char}

/-! ## Parts and what follows them -/

/-- A text that does not go on with a character of the property. -/
def Stops (p : Char → Bool) (rest : List Char) : Prop := ∀ c ∈ rest.head?, p c = false

/-! ## Before and behind the last `@` -/

theorem splitUser_append (h : ∀ c ∈ rest, c ≠ '@') :
    splitUser (cs ++ '@' :: rest) = (some cs, rest) := by
  have hbehind : (cs ++ '@' :: rest).reverse.takeWhile (· ≠ '@') = rest.reverse := by
    rw [List.reverse_append, List.reverse_cons, List.append_assoc]
    refine takeWhile_append (fun c hc ↦ ?_) ?_
    · exact decide_eq_true (h c (List.mem_reverse.1 hc))
    · intro c hc
      obtain rfl : '@' = c := Option.some.inj hc
      decide
  have hlength : (cs ++ '@' :: rest).length - rest.length - 1 = cs.length := by
    rw [List.length_append, List.length_cons]
    omega
  have hne : ¬ rest.length = (cs ++ '@' :: rest).length := by
    rw [List.length_append, List.length_cons]
    omega
  unfold splitUser
  dsimp only
  rw [hbehind, List.length_reverse, if_neg hne, hlength, List.take_left, List.reverse_reverse]

theorem splitUser_of_forall (h : ∀ c ∈ cs, c ≠ '@') : splitUser cs = (none, cs) := by
  have hbehind : cs.reverse.takeWhile (· ≠ '@') = cs.reverse :=
    List.takeWhile_eq_self_iff.2 fun c hc ↦ decide_eq_true (h c (List.mem_reverse.1 hc))
  unfold splitUser
  dsimp only
  rw [hbehind, List.length_reverse, if_pos rfl]

/-! ## User, host and port -/

/-- The way in which the hosts of a url are read. -/
def hostReader (m : Manner) : List Char → Except UrlError Host :=
  if m = .web then Host.readWeb else Host.read

/-- Reads what stands behind a host. -/
def readPortText : List Char → Except UrlError (Option Nat × List Char)
  | ':' :: digits => readPort digits
  | _ => .ok (none, [])

/-- With a host in it what stands before the path is read part by part. -/
theorem readAuthority_of_host (m : Manner) (scheme : List Char) (ended : Bool)
    (hne : (splitPort false (splitUser cs).2).1 ≠ []) :
    readAuthority m scheme cs ended = do
      let host ← hostReader m (splitPort false (splitUser cs).2).1
      let (port, more) ← readPortText (splitPort false (splitUser cs).2).2
      return ({ scheme := scheme
                username := (splitPassword ((splitUser cs).1.getD [])).1
                password := (splitPassword ((splitUser cs).1.getD [])).2
                host := some host
                port := if port = usualPort? scheme then none else port }, more) := by
  have hrest : (splitUser cs).2 ≠ [] := by
    intro hrest
    rw [hrest] at hne
    exact hne rfl
  unfold readAuthority
  dsimp only
  generalize (splitPassword ((splitUser cs).1.getD [])).1 = name
  generalize (splitPassword ((splitUser cs).1.getD [])).2 = password
  generalize (splitUser cs).1 = user
  generalize (splitUser cs).2 = rest at hne hrest ⊢
  generalize (splitPort false rest).2 = portText
  generalize (splitPort false rest).1 = hostText at hne ⊢
  have hempty : hostText.isEmpty = false := by simpa using hne
  simp only [hempty, hrest, List.isEmpty_eq_false_iff.2, ne_eq, not_false_eq_true, Bool.and_false,
    Bool.false_and, Bool.false_eq_true, if_false, Option.isNone_some]
  -- What comes after the port is the same on both ways, whatever it is.
  have hport (k : Option Nat × List Char → Except UrlError (Url × List Char)) :
      (match portText with
        | ':' :: digits => readPort digits >>= k
        | _ => pure (none, []) >>= k) = readPortText portText >>= k := by
    unfold readPortText
    split <;> rfl
  by_cases hweb : m = .web
  · rw [hostReader, if_pos hweb, if_pos hweb]
    exact bind_congr fun host ↦ hport _
  · rw [hostReader, if_neg hweb, if_neg hweb]
    exact bind_congr fun host ↦ hport _

/-- Without a text for the host none is read. -/
theorem splitPort_ne_nil_of_readAuthority {scheme : List Char} {ended : Bool}
    (h : readAuthority m scheme cs ended = .ok (u, more)) (hhost : u.host.isSome) :
    (splitPort false (splitUser cs).2).1 ≠ [] := by
  intro hempty
  unfold readAuthority at h
  dsimp only at h
  simp [hempty, bind, Except.bind, throw, throwThe, MonadExceptOf.throw, pure, Except.pure] at h
  -- Every way to a url from here leaves the host out.
  repeat' split at h
  all_goals cases h
  all_goals simp at hhost

/-! ## What is shown before the path -/

/-- The port behind its colon, if there is one. -/
def portText : Option Nat → List Char
  | some n => ':' :: Text.decimalDigits n
  | none => []

theorem isPortText_portText (port : Option Nat) : Host.IsPortText (portText port) := by
  cases port with
  | none => exact .inl rfl
  | some n => exact .inr ⟨_, rfl⟩

/-- A port is read back from its digits. -/
theorem readPortText_portText {port : Option Nat} (h : ∀ n, port = some n → n ≤ 65535) :
    readPortText (portText port) = .ok (port, []) := by
  cases port with
  | none => rfl
  | some n =>
    have hdigits : (Text.decimalDigits n).takeWhile Decimal.isDigit = Text.decimalDigits n :=
      List.takeWhile_eq_self_iff.2 fun c ↦ Decimal.isDigit_of_mem_decimalDigits
    have hle : ¬ n > 65535 := Nat.not_lt.2 (h n rfl)
    have hempty : (Text.decimalDigits n).isEmpty = false := by
      simpa using Text.decimalDigits_ne_nil n
    change readPort (Text.decimalDigits n) = _
    unfold readPort
    dsimp only
    rw [hdigits, Decimal.value_decimalDigits, if_neg hle, List.drop_length, hempty]
    rfl

/-- The user name and the password before the mark behind them. -/
def userText (username password : List Char) : List Char :=
  username ++ (if password.isEmpty then [] else ':' :: password)

theorem userInfo_eq (username password : List Char) :
    userInfo username password = if username.isEmpty && password.isEmpty then []
      else userText username password ++ ['@'] := by
  unfold userInfo userText
  by_cases h : (username.isEmpty && password.isEmpty) = true
  · rw [if_pos h, if_pos h, List.append_nil]
    rw [Bool.and_eq_true, List.isEmpty_iff, List.isEmpty_iff] at h
    rw [h.1, h.2]
    rfl
  · rw [if_neg h, if_neg h]

/-- What is plain in a user name or a password is no mark of a part behind it. -/
theorem of_plain_userInfo {c : Char} (h : c.toNat < 0x80 ∧ Percent.userInfo c = false) :
    0x20 < c.toNat ∧ c ∉ ['/', '\\', '?', '#', '@', ':'] :=
  Text.forall_ascii (p := fun c ↦ Percent.userInfo c = false →
    0x20 < c.toNat ∧ c ∉ ['/', '\\', '?', '#', '@', ':']) (by decide) h.1 h.2

variable {username password : List Char}

theorem splitPassword_userText (hname : Percent.IsPlain Percent.userInfo username)
    (hpassword : Percent.IsPlain Percent.userInfo password) :
    splitPassword (userText username password) = (username, password) := by
  have hcolon : ∀ c ∈ username, decide (c ≠ ':') = true := by
    intro c hc
    have hmark := (of_plain_userInfo (hname c hc)).2
    simp only [List.mem_cons, not_or] at hmark
    exact decide_eq_true hmark.2.2.2.2.2.1
  have hstops : Stops (· ≠ ':') (if password.isEmpty then [] else ':' :: password) := by
    intro c hc
    split at hc
    · simp at hc
    · obtain rfl : ':' = c := Option.some.inj hc
      decide
  have hbehind : (if password.isEmpty then [] else ':' :: password).drop 1 = password := by
    cases password <;> rfl
  unfold splitPassword userText
  rw [takeWhile_append hcolon hstops, dropWhile_append hcolon hstops, hbehind,
    Percent.encode_of_isPlain hname, Percent.encode_of_isPlain hpassword]

/-- User name and password are read back from what stands before a host. -/
theorem splitUser_userInfo (hname : Percent.IsPlain Percent.userInfo username)
    (hpassword : Percent.IsPlain Percent.userInfo password) (hrest : ∀ c ∈ rest, c ≠ '@') :
    (splitUser (userInfo username password ++ rest)).2 = rest ∧
      splitPassword ((splitUser (userInfo username password ++ rest)).1.getD []) =
        (username, password) := by
  rw [userInfo_eq]
  split
  · next h =>
    rw [Bool.and_eq_true, List.isEmpty_iff, List.isEmpty_iff] at h
    rw [List.nil_append, splitUser_of_forall hrest, h.1, h.2]
    exact ⟨rfl, rfl⟩
  · rw [List.append_assoc, List.singleton_append, splitUser_append hrest]
    exact ⟨rfl, splitPassword_userText hname hpassword⟩

end Telemetry.Url
