import Telemetry.Proofs.Target.Isolation
import Telemetry.Proofs.Target.Rotation

/-!
# The health of a target

A target that is up is never inside a backoff, whatever was done with its connection before, and a
check and a warm-up ask of its database no more than they need (`Attended.health_lawful`).

## The invariant

`HealthState.Upheld` says that a target which is up is not inside a backoff. Time alone keeps it,
since a backoff that is over stays over. A check leaves a target up only when it took the end of the
backoff away before, and a warm-up asks the health again before it says that the target is up.

## What a check asks

Each part of a check adds its contacts to the journal in front of those that were there. `Asked` is
what a part comes to that begins without a backoff: its result, the health it leaves and the
contacts it made belong together. Parts are joined by `Asked.append`, because only the last contact
of a check can reject credentials. How often a session is rebuilt is told by the first ping alone
(`firstPing?`), so the contacts that are counted are those of the whole check.

What is done with a connection does not depend on the journal (`Attended.plain_run`).
-/

namespace Telemetry

variable {σ : Type} {server : Clocked σ} {limits : ConnectionLimits}

/-! ## Counting contacts -/

namespace Contact

/-- The contact is a ping. -/
def isPing : Contact → Bool
  | .pinged .. => true
  | .opened .. | .refused .. | .leased .. | .fetched .. => false

/-- The contact is an attempt at a session. -/
def isOpening : Contact → Bool
  | .opened .. | .refused .. => true
  | .pinged .. | .leased .. | .fetched .. => false

/-- The pings among some contacts. -/
def pings (contacts : List Contact) : Nat := contacts.countP isPing

/-- The attempts at a session among some contacts. -/
def openings (contacts : List Contact) : Nat := contacts.countP isOpening

/-- The earliest ping among some contacts, of which the newest comes first. -/
def firstPing? (contacts : List Contact) : Option Contact := (contacts.filter isPing).getLast?

variable (limits) in
/-- The contact is a ping that finds the session closed. -/
def findsClosed : Contact → Bool
  | .pinged _ _ reply =>
    match reply.within limits.pingTimeout with
    | .ok _ => false
    | .error e => e.isClosed
  | .opened .. | .refused .. | .leased .. | .fetched .. => false

variable (limits) in
/-- The earliest ping finds the session closed. -/
def meetsClosed (contacts : List Contact) : Bool := (firstPing? contacts).any (findsClosed limits)

variable (limits) in
/-- One of the contacts rejects credentials. -/
def Rejected (contacts : List Contact) : Prop :=
  ∃ contact ∈ contacts, ∃ moment, contact.RejectsAt limits moment

/-- A lease is asked for. -/
inductive IsLease : Contact → Prop
  | leased (now : Instant) (generation : Nat) (reply : Reply Unit) :
      IsLease (.leased now generation reply)

variable (limits) in
/-- A lease is granted in time. -/
inductive IsGranted : Contact → Prop
  | leased (now : Instant) (generation : Nat) {reply : Reply Unit} {u : Unit}
      (h : reply.within limits.warmUpTimeout = .ok u) : IsGranted (.leased now generation reply)

theorem pings_append (later earlier : List Contact) :
    pings (later ++ earlier) = pings later + pings earlier :=
  List.countP_append

theorem openings_append (later earlier : List Contact) :
    openings (later ++ earlier) = openings later + openings earlier :=
  List.countP_append

theorem not_rejected_nil : ¬ Rejected limits [] := by
  rintro ⟨contact, hmem, -⟩
  cases hmem

theorem rejected_append {later earlier : List Contact} :
    Rejected limits (later ++ earlier) ↔ Rejected limits later ∨ Rejected limits earlier := by
  constructor
  · rintro ⟨contact, hmem, hrejects⟩
    rcases List.mem_append.1 hmem with hmem | hmem
    · exact .inl ⟨contact, hmem, hrejects⟩
    · exact .inr ⟨contact, hmem, hrejects⟩
  · rintro (⟨contact, hmem, hrejects⟩ | ⟨contact, hmem, hrejects⟩)
    · exact ⟨contact, List.mem_append_left _ hmem, hrejects⟩
    · exact ⟨contact, List.mem_append_right _ hmem, hrejects⟩

theorem not_rejected_opened (now : Instant) (generation : Nat) :
    ¬ Rejected limits [.opened now generation] := by
  rintro ⟨contact, hmem, moment, hrejects⟩
  obtain rfl := List.mem_singleton.1 hmem
  cases hrejects

theorem rejected_refused_iff {now : Instant} {e : DbError} :
    Rejected limits [.refused now e] ↔ e.isInvalidCredentials = true := by
  constructor
  · rintro ⟨contact, hmem, moment, hrejects⟩
    obtain rfl := List.mem_singleton.1 hmem
    cases hrejects with
    | refused _ he => exact he
  · exact fun he ↦ ⟨_, List.mem_singleton_self _, now, .refused now he⟩

theorem rejected_pinged_iff {now : Instant} {generation : Nat} {reply : Reply Unit} :
    Rejected limits [.pinged now generation reply] ↔
      ∃ e, reply.within limits.pingTimeout = .error e ∧ e.isInvalidCredentials = true := by
  constructor
  · rintro ⟨contact, hmem, moment, hrejects⟩
    obtain rfl := List.mem_singleton.1 hmem
    cases hrejects with
    | pinged _ _ hreply he => exact ⟨_, hreply, he⟩
  · rintro ⟨e, hreply, he⟩
    exact ⟨_, List.mem_singleton_self _, _, .pinged now generation hreply he⟩

/-- Of two stretches of contacts, the earlier one has the earliest ping if it has any. -/
theorem firstPing?_append (later earlier : List Contact) :
    firstPing? (later ++ earlier) = (firstPing? earlier).or (firstPing? later) := by
  rw [firstPing?, List.filter_append, List.getLast?_append]
  rfl

theorem meetsClosed_append_of_meetsClosed {later earlier : List Contact}
    (h : meetsClosed limits earlier = true) : meetsClosed limits (later ++ earlier) = true := by
  rw [meetsClosed, firstPing?_append]
  rw [meetsClosed] at h
  cases hfirst : firstPing? earlier with
  | none =>
    rw [hfirst] at h
    cases h
  | some ping =>
    rw [hfirst] at h
    exact h

/-- What is no ping does not come before the earliest ping. -/
theorem meetsClosed_concat {later : List Contact} {contact : Contact}
    (h : contact.isPing = false) :
    meetsClosed limits (later ++ [contact]) = meetsClosed limits later := by
  have hnone : firstPing? [contact] = none := by
    rw [firstPing?, List.filter_cons_of_neg (by simp [h])]
    rfl
  rw [meetsClosed, firstPing?_append, hnone, Option.none_or, meetsClosed]

theorem isPing_of_isOpening {contact : Contact} (h : contact.isOpening = true) :
    contact.isPing = false := by
  cases contact with
  | opened now generation => rfl
  | refused now e => rfl
  | _ => cases h

theorem pings_concat {later : List Contact} {contact : Contact} (h : contact.isOpening = true) :
    pings (later ++ [contact]) = pings later := by
  rw [pings_append, pings, pings, List.countP_singleton, isPing_of_isOpening h]
  rfl

theorem openings_concat {later : List Contact} {contact : Contact} (h : contact.isOpening = true) :
    openings (later ++ [contact]) = openings later + 1 := by
  rw [openings_append, openings, openings, List.countP_singleton, h]
  rfl

end Contact

open Contact

/-- A session that could not be made: what is asked of it goes to no database. -/
def Session.isMissing : Session → Bool
  | .live _ => false
  | .unavailable _ => true

/-! ## The invariant -/

/-- A target that is up is not inside a backoff. -/
def HealthState.Upheld (now : Instant) (h : HealthState) : Prop :=
  h.up = true → h.isValidAt now = true

namespace HealthState

theorem isValidAt_mono {h : HealthState} {now now' : Instant} (hvalid : h.isValidAt now = true)
    (hle : now ≤ now') : h.isValidAt now' = true := by
  rw [isValidAt_iff] at hvalid ⊢
  exact fun moment hmoment ↦ Nat.le_trans (hvalid moment hmoment) hle

theorem Upheld.mono {h : HealthState} {now now' : Instant} (hupheld : h.Upheld now)
    (hle : now ≤ now') : h.Upheld now' :=
  fun hup ↦ isValidAt_mono (hupheld hup) hle

theorem upheld_of_free {h : HealthState} (hfree : h.invalidUntil = none) (now : Instant) :
    h.Upheld now := by
  intro _
  rw [isValidAt, hfree]

theorem upheld_of_down {h : HealthState} (hdown : h.up = false) (now : Instant) :
    h.Upheld now := by
  intro hup
  rw [hdown] at hup
  cases hup

end HealthState

namespace Connection

/-! ## One contact -/

variable (limits) in
/-- What a ping comes to. -/
structure Pinged (c : Connection (Journaled σ)) (made : List Contact)
    (pinged : Settled (Journaled σ) (Except DbError Unit)) : Prop where
  health : pinged.connection.health = c.health
  contacts : pinged.connection.contacts = made ++ c.contacts
  pings : pings made + c.session.isMissing.toNat = 1
  openings : openings made = 0
  others : ∀ contact ∈ made, contact.isPing = true ∨ contact.isOpening = true
  rejected : Rejected limits made ↔ ∃ e, pinged.result = .error e ∧ e.isInvalidCredentials = true
  closed : (c.session.isMissing || meetsClosed limits made) = true ↔
    ∃ e, pinged.result = .error e ∧ e.isClosed = true

theorem exists_pinged (server : Clocked σ) (limits : ConnectionLimits) (now : Instant)
    (c : Connection (Journaled σ)) :
    ∃ made, Pinged limits c made (c.ping server.journaled limits now) := by
  cases hsession : c.session with
  | unavailable reason =>
    rw [ping_of_unavailable hsession]
    refine ⟨[], rfl, rfl, by rw [hsession]; rfl, rfl, nofun, ?_, ?_⟩
    · refine iff_of_false not_rejected_nil ?_
      rintro ⟨e, he, hcredentials⟩
      obtain rfl := Except.error.inj he
      cases hcredentials
    · rw [hsession]
      exact iff_of_true rfl ⟨_, rfl, rfl⟩
  | live generation =>
    obtain ⟨reply, database, hping⟩ := ping_of_live hsession server limits now
    rw [hping]
    refine ⟨[.pinged now generation reply], rfl, rfl, by rw [hsession]; rfl, rfl, ?_,
      rejected_pinged_iff, ?_⟩
    · intro contact hmem
      obtain rfl := List.mem_singleton.1 hmem
      exact .inl rfl
    · rw [hsession]
      change (match reply.within limits.pingTimeout with
        | .ok _ => false
        | .error e => e.isClosed) = true ↔ _
      cases hreply : reply.within limits.pingTimeout with
      | ok u => simp
      | error e => simp

variable (limits) in
/-- What an attempt at a session comes to. -/
structure Opened (c : Connection (Journaled σ)) (opening : Contact) (c' : Connection (Journaled σ)) :
    Prop where
  health : c'.health = c.health
  contacts : c'.contacts = opening :: c.contacts
  isOpening : opening.isOpening = true

/-- A session is rebuilt by one attempt: it succeeds and what follows goes on with a session, or its
failure is taken for final. -/
theorem exists_opened (server : Clocked σ) (limits : ConnectionLimits)
    (next : Instant → Connection (Journaled σ) → Settled (Journaled σ) Health) (now : Instant)
    (c : Connection (Journaled σ)) :
    ∃ opening c', Opened c opening c' ∧
      ((c.rebuildThen server.journaled limits next now = next now c' ∧
          c'.session.isMissing = false ∧ ¬ Rejected limits [opening]) ∨
        ∃ e, c.rebuildThen server.journaled limits next now = c'.fail limits now e ∧
          (Rejected limits [opening] ↔ e.isInvalidCredentials = true)) := by
  rw [rebuildThen, reconnect]
  rcases hserver : (server now).connect c.database.database with ⟨result, database⟩
  cases result with
  | ok generation =>
    rw [Clocked.connect_journaled_of_ok hserver]
    refine ⟨.opened now generation, ⟨c.target, .live generation, c.health,
      ⟨database, .opened now generation :: c.contacts⟩⟩, ⟨rfl, rfl, rfl⟩, .inl ?_⟩
    exact ⟨rfl, rfl, not_rejected_opened now generation⟩
  | error e =>
    rw [Clocked.connect_journaled_of_error hserver]
    refine ⟨.refused now e, { c with database := ⟨database, .refused now e :: c.contacts⟩ },
      ⟨rfl, rfl, rfl⟩, .inr ⟨e, rfl, rejected_refused_iff⟩⟩

/-! ## The end of a check -/

theorem up_fail (now : Instant) (c : Connection σ) (e : DbError) :
    (c.fail limits now e).connection.health.up = false := by
  rw [fail]
  split
  · rfl
  · rfl

theorem result_fail_eq_invalid_iff {now : Instant} {c : Connection σ} {e : DbError} :
    (c.fail limits now e).result = .invalid ↔ e.isInvalidCredentials = true := by
  rw [fail]
  cases e.isInvalidCredentials with
  | true => simp
  | false => simp

variable (limits) in
/-- What a part of a check comes to that begins without a backoff: the result, the health that is
left and the contacts that were made. -/
structure Asked (c : Connection (Journaled σ)) (made : List Contact)
    (asked : Settled (Journaled σ) Health) : Prop where
  contacts : asked.connection.contacts = made ++ c.contacts
  up : asked.connection.health.up = true ↔ asked.result = .healthy
  invalid : asked.result = .invalid ↔ Rejected limits made
  free : asked.result ≠ .invalid → asked.connection.health.invalidUntil = none
  others : ∀ contact ∈ made, contact.isPing = true ∨ contact.isOpening = true

theorem asked_succeed {now : Instant} {c c' : Connection (Journaled σ)} {made : List Contact}
    (hfree : c'.health.invalidUntil = none) (hcontacts : c'.contacts = made ++ c.contacts)
    (hrejected : ¬ Rejected limits made)
    (hothers : ∀ contact ∈ made, contact.isPing = true ∨ contact.isOpening = true) :
    Asked limits c made (c'.succeed now) :=
  ⟨hcontacts, iff_of_true rfl rfl, iff_of_false nofun hrejected, fun _ ↦ hfree, hothers⟩

theorem asked_fail {now : Instant} {c c' : Connection (Journaled σ)} {made : List Contact}
    {e : DbError} (hfree : c'.health.invalidUntil = none)
    (hcontacts : c'.contacts = made ++ c.contacts)
    (hrejected : Rejected limits made ↔ e.isInvalidCredentials = true)
    (hothers : ∀ contact ∈ made, contact.isPing = true ∨ contact.isOpening = true) :
    Asked limits c made (c'.fail limits now e) := by
  refine ⟨(contacts_fail now c' e).trans hcontacts, ?_,
    result_fail_eq_invalid_iff.trans hrejected.symm, fun hresult ↦ ?_, hothers⟩
  · rw [up_fail]
    exact iff_of_false Bool.false_ne_true (result_fail_ne_healthy limits now c' e)
  · rw [invalidUntil_fail hfree, backoffAfter?, if_neg]
    exact fun he ↦ hresult (result_fail_eq_invalid_iff.2 he)

/-- A part of a check follows another one, in which nothing rejected credentials. -/
theorem Asked.append {c c' : Connection (Journaled σ)} {later earlier : List Contact}
    {asked : Settled (Journaled σ) Health} (h : Asked limits c' later asked)
    (hcontacts : c'.contacts = earlier ++ c.contacts) (hrejected : ¬ Rejected limits earlier)
    (hothers : ∀ contact ∈ earlier, contact.isPing = true ∨ contact.isOpening = true) :
    Asked limits c (later ++ earlier) asked := by
  refine ⟨?_, h.up, ?_, h.free, List.forall_mem_append.2 ⟨h.others, hothers⟩⟩
  · rw [h.contacts, hcontacts, List.append_assoc]
  · rw [h.invalid, rejected_append, or_iff_left hrejected]

/-! ## Checks -/

/-- A ping that is answered ends a check. -/
theorem Pinged.succeeded {c : Connection (Journaled σ)} {made : List Contact} {u : Unit}
    {pinged : Settled (Journaled σ) (Except DbError Unit)} (h : Pinged limits c made pinged)
    (hfree : c.health.invalidUntil = none) (hresult : pinged.result = .ok u) (now : Instant) :
    Asked limits c made (pinged.connection.succeed now) := by
  refine asked_succeed (h.health ▸ hfree) h.contacts (fun hrejected ↦ ?_) h.others
  obtain ⟨e, he, -⟩ := h.rejected.1 hrejected
  rw [hresult] at he
  cases he

theorem Pinged.rejected_iff {c : Connection (Journaled σ)} {made : List Contact} {e : DbError}
    {pinged : Settled (Journaled σ) (Except DbError Unit)} (h : Pinged limits c made pinged)
    (hresult : pinged.result = .error e) :
    Rejected limits made ↔ e.isInvalidCredentials = true := by
  rw [h.rejected, hresult]
  simp

/-- A ping that fails ends a check when its failure is taken for final. -/
theorem Pinged.failed {c : Connection (Journaled σ)} {made : List Contact} {e : DbError}
    {pinged : Settled (Journaled σ) (Except DbError Unit)} (h : Pinged limits c made pinged)
    (hfree : c.health.invalidUntil = none) (hresult : pinged.result = .error e) (now : Instant) :
    Asked limits c made (pinged.connection.fail limits now e) :=
  asked_fail (h.health ▸ hfree) h.contacts (h.rejected_iff hresult) h.others

/-- A ping that finds no closed session was sent, and nothing else was asked. -/
theorem Pinged.counts {c : Connection (Journaled σ)} {made : List Contact}
    {pinged : Settled (Journaled σ) (Except DbError Unit)} (h : Pinged limits c made pinged)
    (hresult : ¬ ∃ e, pinged.result = .error e ∧ e.isClosed = true) :
    Contact.pings made + c.session.isMissing.toNat ≤ 2 ∧
      1 ≤ Contact.pings made + Contact.openings made ∧
      Contact.openings made = (c.session.isMissing || meetsClosed limits made).toNat := by
  have hpings := h.pings
  rw [← h.closed, Bool.not_eq_true] at hresult
  obtain ⟨hsession, -⟩ := Bool.or_eq_false_iff.1 hresult
  rw [hsession, Bool.toNat_false, Nat.add_zero] at hpings
  rw [hresult, h.openings, hsession, hpings]
  decide

/-- A ping that is taken for final. -/
theorem asked_probeOnce (server : Clocked σ) {now : Instant} {c : Connection (Journaled σ)}
    (hfree : c.health.invalidUntil = none) :
    ∃ made, Asked limits c made (c.probeOnce server.journaled limits now) ∧
      pings made + c.session.isMissing.toNat = 1 ∧ openings made = 0 := by
  obtain ⟨made, h⟩ := exists_pinged server limits now c
  refine ⟨made, ?_, h.pings, h.openings⟩
  rw [probeOnce]
  generalize c.ping server.journaled limits now = pinged at h ⊢
  cases hresult : pinged.result with
  | ok u => exact h.succeeded hfree hresult pinged.now
  | error e => exact h.failed hfree hresult pinged.now

/-- Rebuilding the session adds one attempt at a session in front of what follows. -/
theorem asked_rebuildThen (server : Clocked σ)
    (next : Instant → Connection (Journaled σ) → Settled (Journaled σ) Health)
    {P : List Contact → Prop} {now : Instant}
    {c : Connection (Journaled σ)} (hfree : c.health.invalidUntil = none) (hnil : P [])
    (hnext : ∀ c' : Connection (Journaled σ), c'.health.invalidUntil = none →
      c'.session.isMissing = false → ∃ made, Asked limits c' made (next now c') ∧ P made) :
    ∃ opening made, opening.isOpening = true ∧
      Asked limits c (made ++ [opening]) (c.rebuildThen server.journaled limits next now) ∧
      P made := by
  obtain ⟨opening, c', hopened, hcases⟩ := exists_opened server limits next now c
  have hfree' : c'.health.invalidUntil = none := hopened.health ▸ hfree
  have hothers : ∀ contact ∈ [opening], contact.isPing = true ∨ contact.isOpening = true := by
    intro contact hmem
    obtain rfl := List.mem_singleton.1 hmem
    exact .inr hopened.isOpening
  rcases hcases with ⟨hrebuilt, hsession, hrejected⟩ | ⟨e, hrebuilt, hrejected⟩
  · obtain ⟨made, hasked, hmade⟩ := hnext c' hfree' hsession
    rw [hrebuilt]
    exact ⟨opening, made, hopened.isOpening,
      hasked.append hopened.contacts hrejected hothers, hmade⟩
  · rw [hrebuilt]
    exact ⟨opening, [], hopened.isOpening,
      asked_fail hfree' hopened.contacts hrejected hothers, hnil⟩

/-- A session is rebuilt, and pinged once. -/
theorem asked_rebuildThen_probeOnce (server : Clocked σ) (limits : ConnectionLimits)
    (now : Instant) {c : Connection (Journaled σ)} (hfree : c.health.invalidUntil = none) :
    ∃ opening made, opening.isOpening = true ∧
      Asked limits c (made ++ [opening]) (c.rebuildThen server.journaled limits
        (fun now c ↦ c.probeOnce server.journaled limits now) now) ∧
      pings made ≤ 1 ∧ openings made = 0 := by
  refine asked_rebuildThen server _ (P := fun made ↦ pings made ≤ 1 ∧ openings made = 0) hfree
    ⟨Nat.zero_le _, rfl⟩ fun c' hfree' _ ↦ ?_
  obtain ⟨made, hasked, hpings, hopenings⟩ := asked_probeOnce server hfree'
  exact ⟨made, hasked, by omega, hopenings⟩

/-- A part of a check that begins with a ping asks at least once and pings twice at most, and it
makes a session when the first ping finds that there is none. -/
theorem asked_probe (server : Clocked σ) (limits : ConnectionLimits) (now : Instant)
    {c : Connection (Journaled σ)} (hfree : c.health.invalidUntil = none) :
    ∃ made, Asked limits c made (c.probe server.journaled limits now) ∧
      pings made + c.session.isMissing.toNat ≤ 2 ∧ 1 ≤ pings made + openings made ∧
      openings made = (c.session.isMissing || meetsClosed limits made).toNat := by
  obtain ⟨first, h⟩ := exists_pinged server limits now c
  rw [probe]
  generalize c.ping server.journaled limits now = pinged at h ⊢
  cases hresult : pinged.result with
  | ok u =>
    refine ⟨first, h.succeeded hfree hresult pinged.now, h.counts ?_⟩
    rintro ⟨e, he, -⟩
    rw [hresult] at he
    cases he
  | error e =>
    dsimp only
    cases hclosed : e.isClosed with
    | false =>
      refine ⟨first, h.failed hfree hresult pinged.now, h.counts ?_⟩
      rintro ⟨e', he, hclosed'⟩
      obtain rfl := Except.error.inj (hresult.symm.trans he)
      rw [hclosed] at hclosed'
      cases hclosed'
    | true =>
      rw [if_pos rfl]
      have hmeets := h.closed.2 ⟨e, hresult, hclosed⟩
      have hnot : ¬ Rejected limits first := by
        rw [h.rejected_iff hresult, DbError.isInvalidCredentials_of_isClosed hclosed]
        exact Bool.false_ne_true
      obtain ⟨opening, later, hopening, hasked, hlater⟩ :=
        asked_rebuildThen_probeOnce server limits pinged.now (h.health ▸ hfree)
      refine ⟨_, hasked.append h.contacts hnot h.others, ?_⟩
      have hwhole : (c.session.isMissing || meetsClosed limits (later ++ [opening] ++ first)) =
          true := by
        rw [Bool.or_eq_true] at hmeets ⊢
        exact hmeets.imp_right meetsClosed_append_of_meetsClosed
      rw [hwhole, pings_append, openings_append, pings_concat hopening, openings_concat hopening,
        h.openings, hlater.2]
      have hpings := h.pings
      exact ⟨by omega, by omega, rfl⟩

/-- A session is rebuilt, and asked like one that was there. -/
theorem asked_rebuildThen_probe (server : Clocked σ) (limits : ConnectionLimits)
    (now : Instant) {c : Connection (Journaled σ)} (hfree : c.health.invalidUntil = none) :
    ∃ opening made, opening.isOpening = true ∧
      Asked limits c (made ++ [opening]) (c.rebuildThen server.journaled limits
        (fun now c ↦ c.probe server.journaled limits now) now) ∧
      pings made ≤ 2 ∧ openings made = (meetsClosed limits made).toNat := by
  refine asked_rebuildThen server _
    (P := fun made ↦ pings made ≤ 2 ∧ openings made = (meetsClosed limits made).toNat) hfree
    ⟨Nat.zero_le _, rfl⟩ fun c' hfree' hsession ↦ ?_
  obtain ⟨made, hasked, hpings, -, hopenings⟩ := asked_probe server limits now hfree'
  rw [hsession] at hpings hopenings
  exact ⟨made, hasked, hpings, hopenings⟩

variable (limits) in
/-- A check finds that there is no session to ask: none was made, or the first ping finds it closed.
A check after a backoff makes a session before it asks for one. -/
def findsNoSession (c : Connection (Journaled σ)) (made : List Contact) : Bool :=
  (c.health.invalidUntil.isNone && c.session.isMissing) || meetsClosed limits made

variable (limits) in
/-- What a check comes to, and the contacts that it makes. -/
structure Checked (now : Instant) (c : Connection (Journaled σ)) (made : List Contact)
    (checked : Settled (Journaled σ) Health) : Prop where
  contacts : checked.connection.contacts = made ++ c.contacts
  /-- Nothing but pings and attempts at a session is asked. -/
  others : ∀ contact ∈ made, contact.isPing = true ∨ contact.isOpening = true
  up : checked.connection.health.up = true ↔ checked.result = .healthy
  invalid : checked.result = .invalid ↔ c.health.isValidAt now = false ∨ Rejected limits made
  free : checked.result ≠ .invalid → checked.connection.health.invalidUntil = none
  /-- Inside a backoff nothing is asked. -/
  idle : c.health.isValidAt now = false → made = []
  asks : c.health.isValidAt now = true → 1 ≤ pings made + openings made
  /-- Two pings at most, with that of a session that could not be made. -/
  pings : pings made + (c.health.invalidUntil.isNone && c.session.isMissing).toNat ≤ 2
  openings : openings made ≤ 2
  /-- One session is made after a backoff, and one when there is no session to ask. -/
  rebuilds : c.health.isValidAt now = true → Contact.openings made =
    c.health.invalidUntil.isSome.toNat + (c.findsNoSession limits made).toNat

/-- A check that is not made inside a backoff. -/
theorem Asked.checked {now : Instant} {c : Connection (Journaled σ)} {made : List Contact}
    {asked : Settled (Journaled σ) Health} (h : Asked limits c.withoutBackoff made asked)
    (hvalid : c.health.isValidAt now = true) (hasks : 1 ≤ pings made + openings made)
    (hpings : pings made + (c.health.invalidUntil.isNone && c.session.isMissing).toNat ≤ 2)
    (hrebuilds : openings made =
      c.health.invalidUntil.isSome.toNat + (c.findsNoSession limits made).toNat) :
    Checked limits now c made asked := by
  have hbound : openings made ≤ 2 := by
    have hsome := Bool.toNat_le c.health.invalidUntil.isSome
    have hnone := Bool.toNat_le (c.findsNoSession limits made)
    omega
  refine ⟨h.contacts, h.others, h.up, ?_, h.free, fun hunder ↦ ?_, fun _ ↦ hasks, hpings, hbound,
    fun _ ↦ hrebuilds⟩
  · rw [h.invalid, hvalid]
    simp
  · rw [hvalid] at hunder
    cases hunder

/-- A check of a target that was in no backoff asks the session that is there. -/
theorem exists_checked_of_free (server : Clocked σ) (limits : ConnectionLimits) (now : Instant)
    {c : Connection (Journaled σ)} (huntil : c.health.invalidUntil = none) :
    ∃ made, Checked limits now c made (c.check server.journaled limits now) := by
  have hvalid : c.health.isValidAt now = true := by rw [HealthState.isValidAt, huntil]
  rw [check_of_free server.journaled limits huntil]
  obtain ⟨made, hasked, hpings, hasks, hopenings⟩ :=
    asked_probe server limits now (c := c.withoutBackoff) rfl
  refine ⟨made, hasked.checked hvalid hasks ?_ ?_⟩
  · rw [huntil]
    exact hpings
  · rw [hopenings, findsNoSession, huntil]
    exact (Nat.zero_add _).symm

/-- A check after a backoff rebuilds the session first. -/
theorem exists_checked_of_over (server : Clocked σ) (limits : ConnectionLimits) {now : Instant}
    {c : Connection (Journaled σ)} {moment : Instant}
    (huntil : c.health.invalidUntil = some moment) (hover : moment ≤ now) :
    ∃ made, Checked limits now c made (c.check server.journaled limits now) := by
  have hvalid : c.health.isValidAt now = true := by
    rw [HealthState.isValidAt, huntil]
    exact decide_eq_true hover
  rw [check_of_over server.journaled limits huntil hover]
  obtain ⟨opening, made, hopening, hasked, hpings, hopenings⟩ :=
    asked_rebuildThen_probe server limits now (c := c.withoutBackoff) rfl
  refine ⟨_, hasked.checked hvalid ?_ ?_ ?_⟩
  · rw [openings_concat hopening]
    omega
  · rw [huntil, pings_concat hopening]
    exact hpings
  · rw [openings_concat hopening, hopenings, findsNoSession, huntil,
      meetsClosed_concat (isPing_of_isOpening hopening)]
    exact Nat.add_comm _ _

/-- A check inside a backoff asks nothing. -/
theorem checked_of_under (server : Clocked σ) (limits : ConnectionLimits) {now : Instant}
    {c : Connection (Journaled σ)} {moment : Instant}
    (huntil : c.health.invalidUntil = some moment) (hunder : ¬ moment ≤ now) :
    Checked limits now c [] (c.check server.journaled limits now) := by
  have hvalid : c.health.isValidAt now = false := by
    rw [HealthState.isValidAt, huntil]
    exact decide_eq_false hunder
  rw [check_of_under server.journaled limits huntil hunder]
  refine ⟨rfl, List.forall_mem_nil _, iff_of_false Bool.false_ne_true (fun h ↦ ?_),
    iff_of_true rfl (.inl hvalid), fun hresult ↦ absurd rfl hresult, fun _ ↦ rfl, fun h ↦ ?_, ?_,
    Nat.zero_le _, fun h ↦ ?_⟩
  · cases h
  · exact absurd (hvalid.symm.trans h) Bool.false_ne_true
  · rw [huntil]
    exact Nat.zero_le _
  · exact absurd (hvalid.symm.trans h) Bool.false_ne_true

/-- Every check comes to this. -/
theorem exists_checked (server : Clocked σ) (limits : ConnectionLimits) (now : Instant)
    (c : Connection (Journaled σ)) :
    ∃ made, Checked limits now c made (c.check server.journaled limits now) := by
  cases huntil : c.health.invalidUntil with
  | none => exact exists_checked_of_free server limits now huntil
  | some moment =>
    by_cases hover : moment ≤ now
    · exact exists_checked_of_over server limits huntil hover
    · exact ⟨[], checked_of_under server limits huntil hover⟩

/-! ## Warm-ups -/

variable (limits) in
/-- What a warm-up comes to that wants so many connections, and the contacts that it makes. -/
structure WarmedUp (now : Instant) (c : Connection (Journaled σ)) (wanted : Nat)
    (made : List Contact) (warmed : Settled (Journaled σ) Bool) : Prop where
  contacts : warmed.connection.contacts = made ++ c.contacts
  leases : ∀ contact ∈ made, contact.IsLease
  requests : made.length ≤ wanted
  /-- What is asked of a session that could not be made goes to no database, and fails. -/
  unsent : c.session.isMissing = true → made = []
  /-- Only the last lease can be one that was not granted. -/
  stops : ∀ contact ∈ made.tail, contact.IsGranted limits
  complete : warmed.result = true ↔ made.length = wanted ∧ ∀ contact ∈ made, contact.IsGranted limits
  failed : warmed.result = false → warmed.connection.health.up = false
  sets : warmed.connection.health.up = true →
    c.health.up = true ∨ warmed.connection.health.isValidAt warmed.now = true
  upheld : c.health.Upheld now → warmed.connection.health.Upheld warmed.now

/-- Nothing is left to ask for. -/
theorem warmedUp_warmed (now : Instant) (c : Connection (Journaled σ)) :
    WarmedUp limits now c 0 [] (c.warmed now) := by
  have hsets : (c.warmed now).connection.health.up = true →
      c.health.up = true ∨ (c.warmed now).connection.health.isValidAt now = true := by
    intro hup
    rwa [warmed, Bool.or_eq_true] at hup
  refine ⟨rfl, nofun, Nat.le_refl _, fun _ ↦ rfl, nofun, iff_of_true rfl ⟨rfl, nofun⟩, nofun, hsets,
    fun h hup ↦ ?_⟩
  rcases hsets hup with hup | hvalid
  · exact h hup
  · exact hvalid

/-- A warm-up ends with the first connection that is not granted. -/
theorem warmedUp_notWarmed {now now' : Instant} {c c' : Connection (Journaled σ)} {wanted : Nat}
    {made : List Contact} {e : DbError} (hcontacts : c'.contacts = made ++ c.contacts)
    (hleases : ∀ contact ∈ made, contact.IsLease) (hshort : made.length ≤ 1)
    (hunsent : c.session.isMissing = true → made = [])
    (hrefused : ∀ contact ∈ made, ¬ contact.IsGranted limits) :
    WarmedUp limits now c (wanted + 1) made (c'.notWarmed limits now' e) := by
  have hdown : (c'.notWarmed limits now' e).connection.health.up = false := up_fail now' c' e
  have htail : made.tail = [] := List.eq_nil_of_length_eq_zero (by rw [List.length_tail]; omega)
  refine ⟨(contacts_fail now' c' e).trans hcontacts, hleases, by omega, hunsent, ?_, ?_,
    fun _ ↦ hdown, ?_, fun _ ↦ HealthState.upheld_of_down hdown _⟩
  · rw [htail]
    exact nofun
  · refine iff_of_false Bool.false_ne_true ?_
    rintro ⟨hlength, hgranted⟩
    obtain ⟨contact, hmem⟩ := List.exists_mem_of_length_pos (l := made) (by omega)
    exact hrefused contact hmem (hgranted contact hmem)
  · rw [hdown]
    exact nofun

/-- A connection that is granted comes before what the rest of a warm-up asks for. -/
theorem WarmedUp.concat {now now' : Instant} {c c' : Connection (Journaled σ)} {wanted : Nat}
    {made : List Contact} {lease : Contact} {warmed : Settled (Journaled σ) Bool}
    (h : WarmedUp limits now' c' wanted made warmed) (hle : now ≤ now')
    (hhealth : c'.health = c.health) (hsession : c.session.isMissing = false)
    (hcontacts : c'.contacts = lease :: c.contacts) (hlease : lease.IsLease)
    (hgranted : lease.IsGranted limits) :
    WarmedUp limits now c (wanted + 1) (made ++ [lease]) warmed := by
  refine ⟨?_, ?_, ?_, fun hmissing ↦ ?_, ?_, ?_, h.failed, hhealth ▸ h.sets, fun hupheld ↦ ?_⟩
  · rw [h.contacts, hcontacts, List.append_assoc, List.singleton_append]
  · exact List.forall_mem_append.2 ⟨h.leases, List.forall_mem_singleton.2 hlease⟩
  · rw [List.length_append]
    exact Nat.add_le_add_right h.requests 1
  · rw [hsession] at hmissing
    cases hmissing
  · cases hmade : made with
    | nil => exact nofun
    | cons newest earlier =>
      have hearlier := h.stops
      rw [hmade] at hearlier
      exact List.forall_mem_append.2 ⟨hearlier, List.forall_mem_singleton.2 hgranted⟩
  · rw [h.complete, List.length_append, List.length_singleton, Nat.add_right_cancel_iff,
      List.forall_mem_append, List.forall_mem_singleton, and_iff_left hgranted]
  · exact h.upheld (hhealth ▸ hupheld.mono hle)

theorem exists_warmedUp_takeLeases (server : Clocked σ) (limits : ConnectionLimits) (wanted : Nat)
    (now : Instant) (c : Connection (Journaled σ)) :
    ∃ made, WarmedUp limits now c wanted made
      (c.takeLeases server.journaled limits wanted now) := by
  -- On the leases that are left: one that is not granted is the last contact, and any other comes
  -- before what the rest of the warm-up asks for.
  induction wanted generalizing now c with
  | zero => exact ⟨[], warmedUp_warmed now c⟩
  | succ wanted ih =>
    rcases c with ⟨target, session, health, journal⟩
    rw [takeLeases]
    cases session with
    | unavailable reason =>
      simp only [Session.lease, Reply.within_atOnce]
      exact ⟨[], warmedUp_notWarmed rfl (List.forall_mem_nil _) (Nat.zero_le _) (fun _ ↦ rfl)
        (List.forall_mem_nil _)⟩
    | live generation =>
      rcases hserver : (server (now.after limits.warmUpDelay)).lease generation
        journal.database with ⟨reply, database⟩
      simp only [Session.lease, Clocked.journaled, hserver]
      have hlease : IsLease (.leased (now.after limits.warmUpDelay) generation reply) :=
        .leased _ generation reply
      cases hreply : reply.within limits.warmUpTimeout with
      | ok u =>
        obtain ⟨made, h⟩ := ih ((now.after limits.warmUpDelay).after
          (reply.elapsed limits.warmUpTimeout)) ⟨target, .live generation, health,
            ⟨database, .leased (now.after limits.warmUpDelay) generation reply ::
              journal.contacts⟩⟩
        exact ⟨_, h.concat (Nat.le_trans (le_after _ _) (le_after _ _)) rfl rfl rfl hlease
          (.leased _ generation hreply)⟩
      | error e =>
        refine ⟨_, warmedUp_notWarmed (List.singleton_append).symm
          (List.forall_mem_singleton.2 hlease) (Nat.le_refl _) (fun h ↦ ?_) ?_⟩
        · cases h
        · rw [List.forall_mem_singleton]
          rintro ⟨_, _, hgranted⟩
          rw [hreply] at hgranted
          cases hgranted

end Connection

/-- A pool holds between one and a hundred connections. -/
theorem TargetSettings.poolSize_bounds (s : TargetSettings) :
    1 ≤ s.poolSize ∧ s.poolSize ≤ 100 := by
  rw [poolSize, maxPoolSize]
  omega

namespace Attended

variable {x : Attended (Journaled σ)}

/-- Neither a check nor a warm-up leaves a target up inside a backoff. -/
theorem upheld_step (server : Clocked σ) (limits : ConnectionLimits)
    (h : x.connection.health.Upheld x.now) (event : Upkeep) :
    (step server.journaled limits x event).connection.health.Upheld
      (step server.journaled limits x event).now := by
  cases event with
  | check wait =>
    intro hup
    obtain ⟨made, hchecked⟩ :=
      Connection.exists_checked server limits (x.now.after wait) x.connection
    have hhealthy := hchecked.up.1 hup
    refine HealthState.upheld_of_free (hchecked.free fun hinvalid ↦ ?_) _ hup
    exact absurd (hhealthy.symm.trans hinvalid) nofun
  | warmUp wait =>
    obtain ⟨made, hwarmed⟩ := Connection.exists_warmedUp_takeLeases server limits
      x.connection.target.settings.poolSize (x.now.after wait) x.connection
    exact hwarmed.upheld (h.mono (Connection.le_after x.now wait))

theorem upheld_run (server : Clocked σ) (limits : ConnectionLimits)
    (h : x.connection.health.Upheld x.now) (events : List Upkeep) :
    (run server.journaled limits x events).connection.health.Upheld
      (run server.journaled limits x events).now := by
  induction events using List.reverseRecOn with
  | nil => exact h
  | append_singleton events event ih =>
    rw [run_concat]
    exact upheld_step server limits ih event

theorem target_begin (now : Instant) (target : Target) (database : σ) :
    (begin server now target database).connection.target = target :=
  Connection.target_start server now target database

/-- After any run of checks and warm-ups a target inside a backoff is not up, the next check comes
to what its result says and asks at most twice for anything, and the next warm-up stops at the first
connection that is not granted. -/
theorem health_lawful (server : Clocked σ) (limits : ConnectionLimits) (now : Instant)
    (target : Target) (database : σ) (events : List Upkeep) :
    let x := run server.journaled limits (begin server now target database) events
    (∀ moment backoffEnd, x.now ≤ moment → x.connection.health.invalidUntil = some backoffEnd →
      moment < backoffEnd → x.connection.health.up = false) ∧
    (∀ wait, ∃ made, Connection.Checked limits (x.now.after wait) x.connection made
      (x.connection.check server.journaled limits (x.now.after wait))) ∧
    (1 ≤ target.settings.poolSize ∧ target.settings.poolSize ≤ 100) ∧
    ∀ wait, ∃ made, Connection.WarmedUp limits (x.now.after wait) x.connection
      target.settings.poolSize made
      (x.connection.warmUp server.journaled limits (x.now.after wait)) := by
  intro x
  have hbegin : (begin server now target database).connection.health.Upheld now := by
    refine HealthState.upheld_of_free ?_ now
    rw [begin, Connection.health_start]
  have hupheld : x.connection.health.Upheld x.now := upheld_run server limits hbegin events
  have htarget : x.connection.target = target :=
    (target_run _ limits _ events).trans (target_begin now target database)
  refine ⟨fun moment backoffEnd hle huntil hunder ↦ ?_,
    fun wait ↦ Connection.exists_checked server limits _ x.connection,
    target.settings.poolSize_bounds, fun wait ↦ ?_⟩
  · rw [← Bool.not_eq_true]
    intro hup
    have hvalid := HealthState.isValidAt_iff.1 (hupheld.mono hle hup) backoffEnd huntil
    exact absurd hvalid (Nat.not_le.2 hunder)
  · rw [Connection.warmUp, htarget]
    exact Connection.exists_warmedUp_takeLeases server limits _ _ x.connection

end Attended

end Telemetry
