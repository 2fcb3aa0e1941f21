import Telemetry.Credentials
import Telemetry.Proofs.Url.Reader

/-!
# Passwords in a url that is shown

A url is shown with a mark in the place of its user name and its password. Where these end is for
the reader of urls to say, and so it hangs on the characters of the password itself: with a mark in
it that ends what stands before the path, its head is read as a host or a port and its tail as a
path, and the url may be shown as it is written.

A password without such a mark is concealed (`IsConcealed`). What is shown is the same for all of
these (`masked_written`), and for no other one is it the same whatever follows the `@`
(`masked_written_eq_iff`).
-/

namespace Telemetry.Url

open Text (takeWhile_append takeWhile_append_of_exists dropWhile_append mem_of_mem_dropRightWhile)

variable {m : Manner} {scheme user password cs rest : List Char} {c : Char}

/-! ## Urls with a user name and a password -/

/-- A url with a user name and a password before its host, as it is written. -/
def written (scheme user password rest : String) : String :=
  scheme ++ "://" ++ user ++ ":" ++ password ++ "@" ++ rest

/-- A character that stands between the parts of a url. -/
def isDelimiter (c : Char) : Bool := [':', '/', '?', '#', '[', ']', '@', '\\'].contains c

/-- The characters that are not dropped inside a url. -/
def kept (cs : List Char) : List Char := cs.filter (!isIgnored ·)

/-- What follows the two slashes. -/
def credentialsBefore (user password rest : List Char) : List Char :=
  user ++ ':' :: (password ++ '@' :: rest)

theorem mem_of_mem_kept (h : c ∈ kept cs) : c ∈ cs := (List.mem_filter.1 h).1

theorem not_ignored_of_isSchemeChar (h : isSchemeChar c = true) :
    isMargin c = false ∧ isIgnored c = false :=
  Text.forall_ascii (p := fun c ↦ isSchemeChar c = true → isMargin c = false ∧ isIgnored c = false)
    (by decide) (ascii_of_isSchemeChar h) h

/-- Of the url only blanks are dropped that stand inside its parts or at its end. -/
theorem significant_written {scheme : String} (h : SpellsScheme scheme.toList)
    (user password rest : String) : significant (written scheme user password rest).toList =
      scheme.toList ++ ':' :: '/' :: '/' :: credentialsBefore (kept user.toList)
        (kept password.toList) (kept (Text.dropRightWhile isMargin rest.toList)) := by
  obtain ⟨first, more, hscheme, -⟩ := h.head
  have hchars : (written scheme user password rest).toList =
      (scheme.toList ++ ':' :: '/' :: '/' :: (user.toList ++ ':' :: password.toList)) ++
        '@' :: rest.toList := by
    simp [written]
  have hmargin : isMargin first = false :=
    (not_ignored_of_isSchemeChar (h.char first (by rw [hscheme]; exact List.mem_cons_self))).1
  have hkept : scheme.toList.filter (!isIgnored ·) = scheme.toList :=
    List.filter_eq_self.2 fun c hc ↦ by
      rw [(not_ignored_of_isSchemeChar (h.char c hc)).2]
      rfl
  have hfirst : ∀ cs, (scheme.toList ++ cs).dropWhile isMargin = scheme.toList ++ cs := by
    intro cs
    rw [hscheme]
    exact List.dropWhile_cons_of_neg (Bool.eq_false_iff.1 hmargin)
  rw [significant, hchars, List.append_assoc, hfirst, ← List.append_assoc,
    Text.dropRightWhile_append_cons (by decide), credentialsBefore, kept, kept, kept,
    List.filter_append, List.filter_append, hkept]
  simp [isIgnored]

/-- Reads what follows the two slashes. -/
def readBehind (m : Manner) (scheme cs : List Char) : Except UrlError Url :=
  match m with
  | .file => readFile scheme ('/' :: '/' :: cs)
  | m => readHosted m scheme cs

theorem readBehind_of_ne_file (hm : m ≠ .file) (scheme cs : List Char) :
    readBehind m scheme cs = readHosted m scheme cs := by
  cases m with
  | web => rfl
  | file => exact absurd rfl hm
  | other => rfl

theorem of_not_isDelimiter (h : isDelimiter c = false) :
    c ∉ [':', '/', '?', '#', '[', ']', '@', '\\'] := by
  simpa [isDelimiter] using h

theorem stops_credentialsBefore (huser : ∀ c ∈ user, isDelimiter c = false)
    (password rest : List Char) : Stops (isSlash m) (credentialsBefore user password rest) := by
  intro c hc
  cases user with
  | nil =>
    obtain rfl : ':' = c := Option.some.inj hc
    rfl
  | cons d user =>
    obtain rfl : d = c := Option.some.inj hc
    have hd := of_not_isDelimiter (huser d List.mem_cons_self)
    simp only [List.mem_cons, not_or] at hd
    simp [isSlash, hd]

/-- The manner of the scheme decides how what follows the two slashes is read. -/
theorem read_written {scheme user : String} (h : SpellsScheme scheme.toList)
    (huser : ∀ c ∈ user.toList, isDelimiter c = false) (password rest : String) :
    read (written scheme user password rest) =
      readBehind (mannerOf (scheme.toList.map Char.toLower)) (scheme.toList.map Char.toLower)
        (credentialsBefore (kept user.toList) (kept password.toList)
          (kept (Text.dropRightWhile isMargin rest.toList))) := by
  rw [read, readChars, significant_written h, h.readScheme?]
  dsimp only
  cases mannerOf (scheme.toList.map Char.toLower) with
  | web =>
    have htwo : ['/', '/'].all (isSlash .web) = true := by decide
    refine congrArg (readHosted .web _) (dropWhile_append (List.all_eq_true.1 htwo) ?_)
    exact stops_credentialsBefore (fun c hc ↦ huser c (mem_of_mem_kept hc)) _ _
  | file => rfl
  | other => rfl

/-! ## Urls with a host -/

/-- Puts a user name and a password into a url. -/
def withCredentials (user password : List Char) (u : Url) : Url :=
  { u with
    username := Percent.encode Percent.userInfo user
    password := Percent.encode Percent.userInfo password }

/-- A user name and a password end nowhere before the `@`. -/
theorem takeWhile_credentialsBefore (huser : ∀ c ∈ user, isDelimiter c = false)
    (hpassword : ∀ c ∈ password, endsAuthority m c = false) :
    (credentialsBefore user password rest).takeWhile (!endsAuthority m ·) =
      credentialsBefore user password (rest.takeWhile (!endsAuthority m ·)) := by
  have hinner : ∀ c ∈ user, (!endsAuthority m c) = true := by
    intro c hc
    have hmark := of_not_isDelimiter (huser c hc)
    simp only [List.mem_cons, not_or] at hmark
    simp [endsAuthority, endsPath, isSlash, hmark]
  have hmark (c : Char) (hc : (!endsAuthority m c) = true) (cs : List Char) :
      (c :: cs).takeWhile (!endsAuthority m ·) = c :: cs.takeWhile (!endsAuthority m ·) :=
    List.takeWhile_cons_of_pos hc
  unfold credentialsBefore
  rw [List.takeWhile_append_of_pos hinner, hmark ':' (by cases m <;> decide),
    List.takeWhile_append_of_pos fun c hc ↦ by rw [hpassword c hc]; rfl,
    hmark '@' (by cases m <;> decide)]

theorem drop_credentialsBefore (user password cs rest : List Char) :
    (credentialsBefore user password (cs ++ rest)).drop
      (credentialsBefore user password cs).length = rest := by
  have happend : credentialsBefore user password (cs ++ rest) =
      credentialsBefore user password cs ++ rest := by
    simp [credentialsBefore]
  rw [happend, List.drop_left]

theorem splitUser_credentialsBefore (h : ∀ c ∈ rest, c ≠ '@') (user password : List Char) :
    splitUser (credentialsBefore user password rest) = (some (user ++ ':' :: password), rest) := by
  have happend : credentialsBefore user password rest =
      (user ++ ':' :: password) ++ '@' :: rest := by
    simp [credentialsBefore]
  rw [happend, splitUser_append h]

theorem splitPassword_append (h : ∀ c ∈ user, isDelimiter c = false) (password : List Char) :
    splitPassword (user ++ ':' :: password) =
      (Percent.encode Percent.userInfo user, Percent.encode Percent.userInfo password) := by
  have hcolon : ∀ c ∈ user, decide (c ≠ ':') = true := by
    intro c hc
    have hmark := of_not_isDelimiter (h c hc)
    simp only [List.mem_cons, not_or] at hmark
    exact decide_eq_true hmark.1
  have hstops : Stops (· ≠ ':') (':' :: password) := by
    intro c hc
    obtain rfl : ':' = c := Option.some.inj hc
    decide
  unfold splitPassword
  rw [takeWhile_append hcolon hstops, dropWhile_append hcolon hstops]
  rfl

/-- The text of the host and what belongs to it. -/
def hostText (m : Manner) (cs : List Char) : List Char :=
  (splitPort false (cs.takeWhile (!endsAuthority m ·))).1

/-- With a host, credentials only add themselves to the url. -/
theorem readHosted_credentialsBefore (huser : ∀ c ∈ user, isDelimiter c = false)
    (hpassword : ∀ c ∈ password, endsAuthority m c = false) (hrest : ∀ c ∈ rest, c ≠ '@')
    (hhost : hostText m rest ≠ []) (scheme : List Char) :
    readHosted m scheme (credentialsBefore user password rest) =
      (readHosted m scheme rest).map (withCredentials user password) := by
  have hplain : ∀ c ∈ rest.takeWhile (!endsAuthority m ·), c ≠ '@' := fun c hc ↦
    hrest c (List.takeWhile_subset _ hc)
  have hdrop := drop_credentialsBefore user password (rest.takeWhile (!endsAuthority m ·))
    (rest.drop (rest.takeWhile (!endsAuthority m ·)).length)
  have hwhole : rest.takeWhile (!endsAuthority m ·) ++
      rest.drop (rest.takeWhile (!endsAuthority m ·)).length = rest :=
    List.prefix_iff_eq_append.1 (List.takeWhile_prefix _)
  rw [hwhole] at hdrop
  unfold readHosted
  dsimp only
  rw [takeWhile_credentialsBefore huser hpassword, hdrop, readAuthority_of_host,
    readAuthority_of_host, splitUser_credentialsBefore hplain, splitUser_of_forall hplain]
  · dsimp only
    rw [Option.getD_some, splitPassword_append huser]
    -- What comes behind the host is the same in both, whatever it is.
    cases hostReader m (splitPort false (rest.takeWhile (!endsAuthority m ·))).1 with
    | error e => rfl
    | ok host =>
      cases readPortText (splitPort false (rest.takeWhile (!endsAuthority m ·))).2 with
      | error e => rfl
      | ok r => rfl
  · rw [splitUser_of_forall hplain]
    exact hhost
  · rw [splitUser_credentialsBefore hplain]
    exact hhost

/-- Without a host there is no url with credentials. -/
theorem readHosted_of_hostText_eq_nil (huser : ∀ c ∈ user, isDelimiter c = false)
    (hpassword : ∀ c ∈ password, endsAuthority m c = false) (hrest : ∀ c ∈ rest, c ≠ '@')
    (hgiven : user ≠ [] ∨ password ≠ []) (hhost : hostText m rest = []) (scheme : List Char) :
    readHosted m scheme (credentialsBefore user password rest) = .error .emptyHost := by
  have hplain : ∀ c ∈ rest.takeWhile (!endsAuthority m ·), c ≠ '@' := fun c hc ↦
    hrest c (List.takeWhile_subset _ hc)
  have hcredentials : ((Percent.encode Percent.userInfo user).isEmpty &&
      (Percent.encode Percent.userInfo password).isEmpty) = false := by
    rw [Bool.and_eq_false_iff, List.isEmpty_eq_false_iff, List.isEmpty_eq_false_iff]
    exact hgiven.imp Percent.encode_ne_nil Percent.encode_ne_nil
  have hsome : some (user ++ ':' :: password) ≠ some [] := by simp
  unfold readHosted
  dsimp only
  rw [takeWhile_credentialsBefore huser hpassword, readAuthority,
    splitUser_credentialsBefore hplain]
  dsimp only
  rw [Option.getD_some, splitPassword_append huser]
  rw [hostText] at hhost
  generalize splitPort false (rest.takeWhile (!endsAuthority m ·)) = parts at hhost ⊢
  obtain ⟨host, port⟩ := parts
  obtain rfl : host = [] := hhost
  simp only [hsome, hcredentials, decide_false, Bool.false_and]
  by_cases hweb : m = .web
  · rw [if_pos hweb]
    rfl
  · rw [if_neg hweb]
    cases port with
    | nil => rfl
    | cons c port => rfl

/-! ## What is shown when all goes well -/

/-- What is shown of a url with credentials, by what is read without them. -/
def maskOver : Except UrlError Url → String
  | .ok v =>
    if v.takesUser then ((v.withPassword "").withUsername Credentials.mark).text
    else Credentials.mark
  | .error _ => Credentials.mark

theorem masked_of_error {s : String} {e : UrlError} (hread : read s = .error e)
    (hat : '@' ∈ s.toList) : masked s = Credentials.mark := by
  have hcontains : Text.contains s "@" = true := (Text.occurs_singleton '@' s.toList).2 hat
  rw [masked, hread]
  exact if_pos hcontains

/-- Credentials that only add themselves to a url are hidden whatever they are. -/
theorem masked_of_map {s : String} {outcome : Except UrlError Url}
    (hread : read s = outcome.map (withCredentials user password))
    (hgiven : user ≠ [] ∨ password ≠ []) (hat : '@' ∈ s.toList) :
    masked s = maskOver outcome := by
  cases outcome with
  | error e => exact masked_of_error hread hat
  | ok v =>
    have hshown : ¬ ((Percent.encode Percent.userInfo user).isEmpty &&
        (Percent.encode Percent.userInfo password).isEmpty) = true := by
      rw [Bool.and_eq_true, List.isEmpty_iff, List.isEmpty_iff, not_and_or]
      exact hgiven.imp Percent.encode_ne_nil Percent.encode_ne_nil
    rw [masked, hread]
    exact if_neg hshown

/-- Without a text for the host nothing is shown at all. -/
theorem maskOver_of_hostText_eq_nil (hrest : ∀ c ∈ rest, c ≠ '@') (hhost : hostText m rest = [])
    (scheme : List Char) : maskOver (readHosted m scheme rest) = Credentials.mark := by
  cases hread : readHosted m scheme rest with
  | error e => rfl
  | ok v =>
    have hnone : v.host.isSome = false := by
      rw [Bool.eq_false_iff]
      intro hsome
      obtain ⟨⟨w, more⟩, hauthority, h⟩ := bind_eq_ok_iff.1 hread
      cases h
      refine splitPort_ne_nil_of_readAuthority hauthority hsome ?_
      rw [splitUser_of_forall fun c hc ↦ hrest c (List.takeWhile_subset _ hc)]
      exact hhost
    rw [maskOver, takesUser, hnone]
    rfl

/-! ## File addresses -/

theorem not_endsAuthority_of_not_isDelimiter (h : isDelimiter c = false) :
    (!endsAuthority m c) = true := by
  have hmark := of_not_isDelimiter h
  simp only [List.mem_cons, not_or] at hmark
  simp [endsAuthority, endsPath, isSlash, hmark]

/-- The host of a file address begins with the user name and its colon. -/
theorem takeWhile_credentialsBefore_file (huser : ∀ c ∈ user, isDelimiter c = false) :
    (credentialsBefore user password rest).takeWhile (!endsAuthority .file ·) =
      user ++ ':' :: (password ++ '@' :: rest).takeWhile (!endsAuthority .file ·) := by
  unfold credentialsBefore
  rw [List.takeWhile_append_of_pos fun c hc ↦ not_endsAuthority_of_not_isDelimiter (huser c hc)]
  exact congrArg (user ++ ·) (List.takeWhile_cons_of_pos (by decide))

/-- The text of the host behind the two slashes of a file address; a drive is none. -/
def fileHostText (cs : List Char) : List Char :=
  if isDrive (cs.takeWhile (!endsAuthority .file ·)) then []
  else cs.takeWhile (!endsAuthority .file ·)

/-- A file address without a host is read and holds no credentials, and one with a host is read
only if the host is. -/
theorem readFile_slashes (hcs : Stops (isSlash .file) cs) (scheme : List Char) :
    (fileHostText cs = [] → ∃ u, readFile scheme ('/' :: '/' :: cs) = .ok u ∧
      u.username = [] ∧ u.password = []) ∧
    (∀ e, fileHostText cs ≠ [] → Host.readWeb (fileHostText cs) = .error e →
      readFile scheme ('/' :: '/' :: cs) = .error e) := by
  have htwo : ∀ c ∈ ['/', '/'], isSlash .file c = true := List.all_eq_true.1 rfl
  have hslashes : ('/' :: '/' :: cs).takeWhile (isSlash .file) = ['/', '/'] :=
    takeWhile_append htwo hcs
  have hdrop : ('/' :: '/' :: cs).drop (['/', '/'].take 2).length = cs := rfl
  have hboth : ¬ (['/', '/'].take 2).length < 2 := by decide
  have hhost : (if isDrive (cs.takeWhile (!endsAuthority .file ·)) then []
      else cs.takeWhile (!endsAuthority .file ·)) = fileHostText cs := rfl
  unfold readFile
  dsimp only
  rw [hslashes, hdrop, if_neg hboth, hhost]
  constructor
  · intro hnil
    rw [hnil]
    exact ⟨_, rfl, rfl, rfl⟩
  · intro e hne herror
    rw [if_neg (by simpa using hne), herror]
    rfl

theorem isDrive_append (user cs : List Char) : isDrive (user ++ ':' :: cs) = true ↔
    cs = [] ∧ ∃ letter, user = [letter] ∧ letter.isAlpha = true := by
  match user, cs with
  | [], [] => simp [isDrive]
  | [], [c] => simp [isDrive]
  | [], _ :: _ :: _ => simp [isDrive]
  | [letter], [] => simp [isDrive]
  | [letter], _ :: _ => simp [isDrive]
  | _ :: _ :: _, cs => simp [isDrive]

theorem takeWhile_password_eq_nil_iff :
    (password ++ '@' :: rest).takeWhile (!endsAuthority .file ·) = [] ↔
      ¬ Stops (endsAuthority .file) password := by
  cases password with
  | nil => simp [Stops, endsAuthority, isSlash, endsPath]
  | cons c password => simp [Stops]

/-- The user name and the password together stand for a drive. -/
def SpellsDrive (user password : List Char) : Prop :=
  (∃ letter, user = [letter] ∧ letter.isAlpha = true) ∧ ¬ Stops (endsAuthority .file) password

theorem fileHostText_credentialsBefore (huser : ∀ c ∈ user, isDelimiter c = false)
    (password rest : List Char) :
    (SpellsDrive user password → fileHostText (credentialsBefore user password rest) = []) ∧
    (¬ SpellsDrive user password → ∃ more,
      fileHostText (credentialsBefore user password rest) = user ++ ':' :: more) := by
  have hdrive := isDrive_append user
    ((password ++ '@' :: rest).takeWhile (!endsAuthority .file ·))
  rw [takeWhile_password_eq_nil_iff, and_comm] at hdrive
  unfold fileHostText
  rw [takeWhile_credentialsBefore_file huser]
  constructor
  · intro h
    exact if_pos (hdrive.2 h)
  · intro h
    exact ⟨_, if_neg fun hd ↦ h (hdrive.1 hd)⟩

/-- Behind the scheme of a file address credentials are read only if they stand for a drive. -/
theorem readFile_credentialsBefore (huser : ∀ c ∈ user, isDelimiter c = false)
    (scheme rest : List Char) :
    (SpellsDrive user password →
      ∃ u, readFile scheme ('/' :: '/' :: credentialsBefore user password rest) = .ok u ∧
        u.username = [] ∧ u.password = []) ∧
    (¬ SpellsDrive user password →
      ∃ e, readFile scheme ('/' :: '/' :: credentialsBefore user password rest) = .error e) := by
  obtain ⟨hnil, hsome⟩ := fileHostText_credentialsBefore huser password rest
  obtain ⟨hdrive, herror⟩ := readFile_slashes
    (stops_credentialsBefore (m := .file) huser password rest) scheme
  constructor
  · intro h
    exact hdrive (hnil h)
  · intro h
    obtain ⟨more, hmore⟩ := hsome h
    have hbracket : ∀ c ∈ (user ++ ':' :: more).head?, c ≠ '[' := by
      intro c hc
      cases user with
      | nil =>
        obtain rfl : ':' = c := Option.some.inj hc
        decide
      | cons d user =>
        obtain rfl : d = c := Option.some.inj hc
        have hmark := of_not_isDelimiter (huser d List.mem_cons_self)
        simp only [List.mem_cons, not_or] at hmark
        exact hmark.2.2.2.2.1
    rw [hmore] at herror
    cases hread : Host.readWeb (user ++ ':' :: more) with
    | error e => exact ⟨e, herror e (by simp) hread⟩
    | ok host => exact absurd hread (Host.readWeb_ne_ok_of_colon (by simp) hbracket)

/-! ## Passwords that are hidden -/

/-- A password that is read as what it is: it does not end what stands before the path, and there
is something to hide. A file address has no password; it must not be taken for a drive. -/
def IsConcealed (m : Manner) (user password : List Char) : Prop :=
  match m with
  | .file => ¬ SpellsDrive user password
  | m => (user ≠ [] ∨ password ≠ []) ∧ ∀ c ∈ password, endsAuthority m c = false

theorem isConcealed_iff (hm : m ≠ .file) : IsConcealed m user password ↔
    (user ≠ [] ∨ password ≠ []) ∧ ∀ c ∈ password, endsAuthority m c = false := by
  cases m with
  | web => exact Iff.rfl
  | file => exact absurd rfl hm
  | other => exact Iff.rfl

/-- The text that is shown in the place of one with a password, by what follows the `@`. -/
def shownFor (m : Manner) (scheme rest : List Char) : String :=
  match m with
  | .file => Credentials.mark
  | m => maskOver (readHosted m scheme rest)

theorem masked_of_readHosted {s : String} (hat : '@' ∈ s.toList)
    (huser : ∀ c ∈ user, isDelimiter c = false)
    (hgiven : user ≠ [] ∨ password ≠ []) (hpassword : ∀ c ∈ password, endsAuthority m c = false)
    (hrest : ∀ c ∈ rest, c ≠ '@')
    (hread : read s = readHosted m scheme (credentialsBefore user password rest)) :
    masked s = maskOver (readHosted m scheme rest) := by
  by_cases hhost : hostText m rest = []
  · rw [readHosted_of_hostText_eq_nil huser hpassword hrest hgiven hhost] at hread
    rw [maskOver_of_hostText_eq_nil hrest hhost]
    exact masked_of_error hread hat
  · rw [readHosted_credentialsBefore huser hpassword hrest hhost] at hread
    exact masked_of_map hread hgiven hat

theorem mem_written (scheme user password rest : String) :
    '@' ∈ (written scheme user password rest).toList ∧
      ':' ∈ (written scheme user password rest).toList := by
  simp [written]

theorem ne_of_mem_kept {rest : String} (h : '@' ∉ rest.toList) :
    ∀ c ∈ kept (Text.dropRightWhile isMargin rest.toList), c ≠ '@' := by
  rintro c hc rfl
  exact h (mem_of_mem_dropRightWhile (mem_of_mem_kept hc))

/-- What is shown of a url with a concealed password depends on neither the user name nor the
password. -/
theorem masked_written {scheme user password rest : String} (hscheme : SpellsScheme scheme.toList)
    (huser : ∀ c ∈ user.toList, isDelimiter c = false) (hrest : '@' ∉ rest.toList)
    (hm : mannerOf (scheme.toList.map Char.toLower) = m)
    (h : IsConcealed m (kept user.toList) (kept password.toList)) :
    masked (written scheme user password rest) =
      shownFor m (scheme.toList.map Char.toLower)
        (kept (Text.dropRightWhile isMargin rest.toList)) := by
  have hread := read_written hscheme huser password rest
  have hat := (mem_written scheme user password rest).1
  have hkept : ∀ c ∈ kept user.toList, isDelimiter c = false := fun c hc ↦
    huser c (mem_of_mem_kept hc)
  rw [hm] at hread
  cases m with
  | web => exact masked_of_readHosted hat hkept h.1 h.2 (ne_of_mem_kept hrest) hread
  | other => exact masked_of_readHosted hat hkept h.1 h.2 (ne_of_mem_kept hrest) hread
  | file =>
    obtain ⟨e, herror⟩ := (readFile_credentialsBefore hkept _ _).2 h
    exact masked_of_error (hread.trans herror) hat

/-! ## Passwords that are shown -/

/-- What is shown reads as a url with a user name only if it was made from such a url. -/
theorem read_of_read_masked {s : String} {v : Url} (h : read (masked s) = .ok v)
    (hname : v.username ≠ []) :
    ∃ u, read s = .ok u ∧ (u.username ≠ [] ∨ u.password ≠ []) ∧ u.host = v.host := by
  have hmark : read Credentials.mark = .error .relative := by decide +kernel
  rw [masked] at h
  split at h
  · next u hread =>
    split at h
    · next hnone =>
      -- The text is shown as it stands, so the two are one url, and it has no user name.
      rw [hread] at h
      cases h
      rw [Bool.and_eq_true, List.isEmpty_iff] at hnone
      exact absurd hnone.1 hname
    · next hsome =>
      refine ⟨u, hread, ?_, ?_⟩
      · rwa [Bool.and_eq_true, List.isEmpty_iff, List.isEmpty_iff, not_and_or] at hsome
      · split at h
        · next huser =>
          obtain ⟨m, hm, hnormal⟩ := isNormal_of_readChars hread huser
          have hback := ((hnormal.withPassword "").withUsername
            Credentials.mark).readChars_textChars hm
          rw [read, text, String.toList_ofList, hback] at h
          cases h
          rfl
        · rw [hmark] at h
          cases h
  · next e hread =>
    split at h
    · rw [hmark] at h
      cases h
    · rw [hread] at h
      cases h

theorem readAuthority_of_readHosted {u : Url} (h : readHosted m scheme cs = .ok u) :
    ∃ v more, readAuthority m scheme (cs.takeWhile (!endsAuthority m ·))
      (cs.drop (cs.takeWhile (!endsAuthority m ·)).length).isEmpty = .ok (v, more) ∧
      u.host = v.host := by
  obtain ⟨⟨v, more⟩, hauthority, h⟩ := bind_eq_ok_iff.1 h
  cases h
  exact ⟨v, more, hauthority, rfl⟩

/-- A password that ends what stands before the path keeps the host from being read behind it. -/
theorem host_eq_of_readHosted (hpassword : ∃ c ∈ password, endsAuthority m c = true)
    {rest' : List Char} {u v : Url}
    (hu : readHosted m scheme (credentialsBefore user password rest) = .ok u)
    (hv : readHosted m scheme (credentialsBefore user password rest') = .ok v) :
    u.host = v.host := by
  have hends : ∃ c ∈ user ++ ':' :: password, (!endsAuthority m c) = false := by
    obtain ⟨c, hc, hend⟩ := hpassword
    exact ⟨c, List.mem_append_right _ (List.mem_cons_of_mem _ hc), by rw [hend]; rfl⟩
  have happend (rest : List Char) : credentialsBefore user password rest =
      (user ++ ':' :: password) ++ '@' :: rest := by
    simp [credentialsBefore]
  obtain ⟨a, more, ha, hhost⟩ := readAuthority_of_readHosted hu
  obtain ⟨b, more', hb, hhost'⟩ := readAuthority_of_readHosted hv
  obtain ⟨htake, hdrop⟩ := takeWhile_append_of_exists hends ('@' :: rest)
  obtain ⟨htake', hdrop'⟩ := takeWhile_append_of_exists hends ('@' :: rest')
  rw [happend, htake, hdrop] at ha
  rw [happend, htake', hdrop', ha] at hb
  cases hb
  rw [hhost, hhost']

/-- A host of one letter is read as itself. -/
theorem readHosted_letter {letter : Char} (hm : m ≠ .file) (h : letter = 'g' ∨ letter = 'h')
    (scheme : List Char) : ∃ v, readHosted m scheme [letter] = .ok v ∧ v.scheme = scheme ∧
      v.host = some (.name [letter]) := by
  have hhost : hostReader m [letter] = .ok (.name [letter]) := by
    cases m with
    | web => rcases h with rfl | rfl <;> decide +kernel
    | file => exact absurd rfl hm
    | other => rcases h with rfl | rfl <;> decide +kernel
  have htake : [letter].takeWhile (!endsAuthority m ·) = [letter] := by
    rcases h with rfl | rfl <;> cases m <;> rfl
  have hsplit : splitUser [letter] = (none, [letter]) :=
    splitUser_of_forall fun c hc ↦ by
      rw [List.mem_singleton.1 hc]
      rcases h with rfl | rfl <;> decide
  have hport : splitPort false [letter] = ([letter], []) := by
    rcases h with rfl | rfl <;> rfl
  have hauthority (ended : Bool) : ∃ port,
      readAuthority m scheme [letter] ended =
        .ok ({ scheme := scheme, host := some (.name [letter]), port := port }, []) := by
    refine ⟨if none = usualPort? scheme then none else none, ?_⟩
    rw [readAuthority_of_host, hsplit, hport, hhost]
    · rfl
    · rw [hsplit, hport]
      exact List.cons_ne_nil _ _
  obtain ⟨port, hauthority⟩ := hauthority ([letter].drop [letter].length).isEmpty
  unfold readHosted
  dsimp only
  rw [htake, hauthority]
  exact ⟨_, rfl, rfl, rfl⟩

/-- Before a host of one letter what is shown reads as a url with that host and a user name. -/
theorem read_shownFor_letter {letter : Char} (hm : m ≠ .file) (h : letter = 'g' ∨ letter = 'h')
    (hscheme : IsScheme scheme) (hmanner : mannerOf scheme = m) :
    ∃ v, read (shownFor m scheme [letter]) = .ok v ∧ v.username ≠ [] ∧
      v.host = some (.name [letter]) := by
  obtain ⟨v, hv, hvscheme, hvhost⟩ := readHosted_letter hm h scheme
  have huser : v.takesUser = true := by
    rw [takesUser, hvhost, hvscheme, Bool.and_eq_true, decide_eq_true_eq]
    refine ⟨rfl, ?_⟩
    rintro rfl
    exact hm (hmanner.symm.trans (by decide))
  have hnormal := isNormal_of_readHosted hm hscheme hmanner hv (by rw [hvhost]; rfl)
  have hback := ((hnormal.withPassword "").withUsername Credentials.mark).readChars_textChars hm
  have hshown : shownFor m scheme [letter] =
      ((v.withPassword "").withUsername Credentials.mark).text := by
    have hmask : maskOver (readHosted m scheme [letter]) =
        ((v.withPassword "").withUsername Credentials.mark).text := by
      rw [hv]
      exact if_pos huser
    cases m with
    | file => exact absurd rfl hm
    | web => exact hmask
    | other => exact hmask
  refine ⟨(v.withPassword "").withUsername Credentials.mark, ?_, ?_, hvhost⟩
  · rw [hshown, read, text, String.toList_ofList]
    exact hback
  · exact Percent.encode_ne_nil (by decide)

theorem SpellsScheme.isScheme (h : SpellsScheme scheme) :
    IsScheme (scheme.map Char.toLower) :=
  isScheme_of_readScheme? (h.readScheme? [])

theorem kept_dropRightWhile_letter {letter : Char} (h : letter = 'g' ∨ letter = 'h') :
    kept (Text.dropRightWhile isMargin (String.singleton letter).toList) = [letter] := by
  rcases h with rfl | rfl <;> decide

/-- If the host behind the `@` can be read from what is shown, the password is read as one. -/
theorem isConcealed_of_host (scheme : List Char) {s : Char → String}
    (huser : ∀ c ∈ user, isDelimiter c = false) (hm : m ≠ .file)
    (hread : ∀ letter, letter = 'g' ∨ letter = 'h' →
      read (s letter) = readHosted m scheme (credentialsBefore user password [letter]))
    (h : ∀ letter, letter = 'g' ∨ letter = 'h' → ∃ v, read (masked (s letter)) = .ok v ∧
      v.username ≠ [] ∧ v.host = some (.name [letter])) : IsConcealed m user password := by
  have hshown (letter : Char) (hletter : letter = 'g' ∨ letter = 'h') :
      ∃ u, readHosted m scheme (credentialsBefore user password [letter]) = .ok u ∧
        (u.username ≠ [] ∨ u.password ≠ []) ∧ u.host = some (.name [letter]) := by
    obtain ⟨v, hv, hname, hhost⟩ := h letter hletter
    obtain ⟨u, hu, hgiven, huhost⟩ := read_of_read_masked hv hname
    exact ⟨u, (hread letter hletter).symm.trans hu, hgiven, huhost.trans hhost⟩
  obtain ⟨u, hu, hgiven, hhost⟩ := hshown 'g' (.inl rfl)
  obtain ⟨v, hv, -, hhost'⟩ := hshown 'h' (.inr rfl)
  have hends : ∀ c ∈ password, endsAuthority m c = false := by
    intro c hc
    by_contra hend
    have heq := host_eq_of_readHosted ⟨c, hc, eq_true_of_ne_false hend⟩ hu hv
    rw [hhost, hhost'] at heq
    exact absurd heq (by decide)
  rw [isConcealed_iff hm]
  refine ⟨?_, hends⟩
  by_contra hnone
  rw [not_or, not_not, not_not] at hnone
  obtain ⟨rfl, rfl⟩ := hnone
  rw [readHosted_credentialsBefore huser hends (List.forall_mem_singleton.2 (by decide))
    (by cases m <;> decide)] at hu
  obtain ⟨w, -, rfl⟩ := map_eq_ok_iff.1 hu
  exact hgiven.elim (absurd rfl) (absurd rfl)

/-- A password that is not concealed shows, at least with some host behind it. -/
theorem isConcealed_of_masked_eq {scheme user password other : String}
    (hscheme : SpellsScheme scheme.toList) (huser : ∀ c ∈ user.toList, isDelimiter c = false)
    (hm : mannerOf (scheme.toList.map Char.toLower) = m)
    (hother : IsConcealed m (kept user.toList) (kept other.toList))
    (h : ∀ rest : String, '@' ∉ rest.toList →
      masked (written scheme user password rest) = masked (written scheme user other rest)) :
    IsConcealed m (kept user.toList) (kept password.toList) := by
  have hkept : ∀ c ∈ kept user.toList, isDelimiter c = false := fun c hc ↦
    huser c (mem_of_mem_kept hc)
  have hshown (rest : String) (hrest : '@' ∉ rest.toList) :=
    (h rest hrest).trans (masked_written hscheme huser hrest hm hother)
  by_cases hfile : m = .file
  · subst hfile
    intro hdrive
    obtain ⟨u, hu, hname, hpassword⟩ := (readFile_credentialsBefore hkept
      (scheme.toList.map Char.toLower) (kept (Text.dropRightWhile isMargin "".toList))).1 hdrive
    have hmasked : masked (written scheme user password "") = written scheme user password "" := by
      have hread := read_written hscheme huser password ""
      rw [hm] at hread
      rw [masked, hread.trans hu]
      dsimp only
      rw [hname, hpassword]
      rfl
    have hcolon := (mem_written scheme user password "").2
    rw [← hmasked, hshown "" (by decide)] at hcolon
    exact absurd hcolon (by decide : ':' ∉ Credentials.mark.toList)
  · refine isConcealed_of_host (scheme.toList.map Char.toLower) (s := fun letter ↦
      written scheme user password (String.singleton letter)) hkept hfile ?_ ?_
    · intro letter hletter
      have hread := read_written hscheme huser password (String.singleton letter)
      rw [hm, kept_dropRightWhile_letter hletter] at hread
      rw [hread, readBehind_of_ne_file hfile]
    · intro letter hletter
      have hat : '@' ∉ (String.singleton letter).toList := by
        rcases hletter with rfl | rfl <;> decide
      rw [hshown _ hat, kept_dropRightWhile_letter hletter]
      exact read_shownFor_letter hfile hletter hscheme.isScheme hm

/-- What is shown of a url does not depend on its password exactly if the password is concealed.
The measure is any other password that is concealed itself. -/
theorem masked_written_eq_iff {scheme user password other : String}
    (hscheme : SpellsScheme scheme.toList) (huser : ∀ c ∈ user.toList, isDelimiter c = false)
    (hother : IsConcealed (mannerOf (scheme.toList.map Char.toLower)) (kept user.toList)
      (kept other.toList)) :
    (∀ rest : String, '@' ∉ rest.toList →
      masked (written scheme user password rest) = masked (written scheme user other rest)) ↔
    IsConcealed (mannerOf (scheme.toList.map Char.toLower)) (kept user.toList)
      (kept password.toList) := by
  constructor
  · exact isConcealed_of_masked_eq hscheme huser rfl hother
  · intro hpassword rest hrest
    rw [masked_written hscheme huser hrest rfl hpassword,
      masked_written hscheme huser hrest rfl hother]

/-- With an `@` in it a password is concealed. -/
theorem masked_written_eq_atSign :
    (∀ rest : String, '@' ∉ rest.toList → masked (written "postgres" "monitor" "p@ss" rest) =
      masked (written "postgres" "monitor" "secret" rest)) ↔
    IsConcealed (mannerOf ("postgres".toList.map Char.toLower)) (kept "monitor".toList)
      (kept "p@ss".toList) := by
  refine masked_written_eq_iff ⟨⟨_, _, rfl, by decide⟩, List.all_eq_true.1 rfl⟩ ?_ ?_
  · simp [isDelimiter]
  · refine ⟨.inl (by decide), fun c hc ↦ ?_⟩
    exact Bool.eq_false_iff.2 (List.any_eq_false.1 rfl c hc)

/-- Before a slash a number in a password is read as a port, and the url is shown as it stands. -/
theorem not_masked_eq_slash :
    ¬ ∀ scheme user password other rest : String, SpellsScheme scheme.toList → user ≠ "" →
      (∀ c ∈ user.toList, isDelimiter c = false) → '@' ∉ rest.toList → password ≠ "" →
      other ≠ "" →
      masked (written scheme user password rest) = masked (written scheme user other rest) := by
  intro h
  have heq := h "postgres" "monitor" "9/secret" "secret" "db.internal:5432/app"
    ⟨⟨_, _, rfl, by decide⟩, List.all_eq_true.1 rfl⟩ (by decide) (by simp [isDelimiter]) (by decide)
    (by decide) (by decide)
  have hshown : masked (written "postgres" "monitor" "9/secret" "db.internal:5432/app") =
      "postgres://monitor:9/secret@db.internal:5432/app" := by
    decide +kernel
  have hhidden : masked (written "postgres" "monitor" "secret" "db.internal:5432/app") =
      "postgres://***@db.internal:5432/app" := by
    decide +kernel
  rw [hshown, hhidden] at heq
  exact absurd heq (by decide)

end Telemetry.Url
