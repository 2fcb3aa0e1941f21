import Mathlib.Data.List.Induction
import Telemetry.Proofs.Target.Journal
import Telemetry.Proofs.Target.Upkeep
import Telemetry.Rehearsal

/-!
# Credentials that are rotated

A target whose credentials were rejected is left alone for a backoff, and the first check after
that makes a new session before it pings. That a session has to be made is kept nowhere but in the
end of the backoff, which the check takes away before it knows whether the session can be made.
When it cannot, and not because of the credentials, the rejection is forgotten: the next check
pings the session whose credentials were rejected.

This is the only way to such a ping (`pingsAreFresh_iff`).

## The invariant

`Sound` says how the health of a target follows its journal: a backoff that is under way is the
longest of all and the session in use is then no fresh one, and without a backoff all of them are
over. What it does not say is that without a backoff the session is fresh; a state in which it is
not is `Forgotten`.
-/

namespace Telemetry

open Contact

variable {σ : Type} {server : Clocked σ} {limits : ConnectionLimits}

namespace Connection

variable (limits) in
/-- The session in use, if there is one, was made after all backoffs. -/
def UsesFresh (c : Connection (Journaled σ)) : Prop :=
  ∀ generation, c.session = .live generation → IsFresh limits generation c.contacts

variable (limits) in
/-- The session in use outlived a rejection, and no backoff tells of it any more. -/
def Forgotten (c : Connection (Journaled σ)) : Prop :=
  c.health.invalidUntil = none ∧ ¬ c.UsesFresh limits

variable (limits) in
/-- How the health of a target follows its journal. -/
structure Sound (now : Instant) (c : Connection (Journaled σ)) : Prop where
  bounded : BackoffsEndBy limits (now.after limits.backoff) c.contacts
  pending : ∀ moment, c.health.invalidUntil = some moment → BackoffsEndBy limits moment c.contacts
  stale : ∀ moment generation, c.health.invalidUntil = some moment →
    c.session = .live generation → ¬ IsFresh limits generation c.contacts
  past : c.health.invalidUntil = none → BackoffsEndBy limits now c.contacts

variable (limits) in
/-- No backoff is under way, and all of them are over. -/
structure Ready (now : Instant) (c : Connection (Journaled σ)) : Prop where
  free : c.health.invalidUntil = none
  past : BackoffsEndBy limits now c.contacts

theorem Ready.sound {now : Instant} {c : Connection (Journaled σ)} (h : c.Ready limits now) :
    c.Sound limits now := by
  refine ⟨h.past.mono (le_after _ _), fun moment hm ↦ ?_, fun moment _ hm ↦ ?_, fun _ ↦ h.past⟩
  · rw [h.free] at hm
    cases hm
  · rw [h.free] at hm
    cases hm

theorem Sound.mono {now now' : Instant} {c : Connection (Journaled σ)}
    (h : c.Sound limits now) (hle : now ≤ now') : c.Sound limits now' :=
  ⟨h.bounded.mono (after_mono hle _), h.pending, h.stale, fun hfree ↦ (h.past hfree).mono hle⟩

/-! ## Failures -/

variable (limits) in
/-- A connection at the moment at which it learned of a failure: one that rejects credentials
begins a backoff and leaves no fresh session, any other leaves things as they were. -/
structure FailedWith (e : DbError) (fresh : Prop) (now : Instant) (c : Connection (Journaled σ)) :
    Prop where
  free : c.health.invalidUntil = none
  rejected : e.isInvalidCredentials = true →
    BackoffsEndBy limits (now.after limits.backoff) c.contacts ∧
      ∀ generation, c.session = .live generation → ¬ IsFresh limits generation c.contacts
  kept : e.isInvalidCredentials = false →
    BackoffsEndBy limits now c.contacts ∧ (c.UsesFresh limits ↔ fresh)

/-- Any failure is accounted for, and none makes a target forget a rejection. -/
theorem FailedWith.fail {e : DbError} {fresh : Prop} {now : Instant}
    {c : Connection (Journaled σ)} (h : c.FailedWith limits e fresh now) :
    (c.fail limits now e).connection.Sound limits now ∧
      ((c.fail limits now e).connection.Forgotten limits ↔
        e.isInvalidCredentials = false ∧ ¬ fresh) := by
  rw [Connection.fail]
  cases he : e.isInvalidCredentials with
  | true =>
    obtain ⟨hbounded, hstale⟩ := h.rejected he
    -- The backoff that begins now ends last, so it stands for all of them.
    rw [if_pos rfl]
    refine ⟨⟨hbounded, fun moment hm ↦ ?_, fun _ generation _ ↦ hstale generation, by simp⟩,
      fun hforgotten ↦ absurd hforgotten.1 (by simp), by simp⟩
    obtain rfl := Option.some.inj hm
    exact hbounded
  | false =>
    obtain ⟨hpast, hfresh⟩ := h.kept he
    rw [if_neg (by decide)]
    have hready : Ready limits now
        { c with health := { c.health with up := false } } := ⟨h.free, hpast⟩
    exact ⟨hready.sound, fun hforgotten ↦ ⟨rfl, fun hf ↦ hforgotten.2 (hfresh.2 hf)⟩,
      fun hnot ↦ ⟨h.free, fun hf ↦ hnot.2 (hfresh.1 hf)⟩⟩

/-! ## Contacts -/

theorem usesFresh_of_live {c : Connection (Journaled σ)} {generation : Nat}
    (h : c.session = .live generation) :
    c.UsesFresh limits ↔ IsFresh limits generation c.contacts := by
  constructor
  · exact fun hfresh ↦ hfresh generation h
  · intro hfresh generation' h'
    obtain rfl := Session.live.inj (h.symm.trans h')
    exact hfresh

theorem usesFresh_of_unavailable {c : Connection (Journaled σ)} {reason : String}
    (h : c.session = .unavailable reason) : c.UsesFresh limits := by
  intro generation hlive
  rw [h] at hlive
  cases hlive

/-- A contact that neither makes a session nor rejects credentials. -/
structure IsPassing (limits : ConnectionLimits) (contact : Contact) : Prop where
  opened : ∀ later, lastOpened? (contact :: later) = lastOpened? later
  backoff : contact.backoffEnd? limits = none

theorem usesFresh_passing {c c' : Connection (Journaled σ)} {contact : Contact}
    (hpassing : IsPassing limits contact) (hsession : c'.session = c.session)
    (hcontacts : c'.contacts = contact :: c.contacts) :
    c'.UsesFresh limits ↔ c.UsesFresh limits := by
  refine forall_congr' fun generation ↦ ?_
  rw [hsession, hcontacts, isFresh_cons hpassing.opened hpassing.backoff]

theorem backoffsEndBy_passing {moment : Instant} {contact : Contact} {contacts : List Contact}
    (hpassing : IsPassing limits contact) (h : BackoffsEndBy limits moment contacts) :
    BackoffsEndBy limits moment (contact :: contacts) := by
  refine backoffsEndBy_cons (fun backoffEnd hend ↦ ?_) h
  rw [hpassing.backoff] at hend
  cases hend

/-- A contact that comes with a failure, and rejects credentials if the failure does. -/
theorem failedWith_contact {e : DbError} {now now' : Instant} {c c' : Connection (Journaled σ)}
    {contact : Contact} (h : c.Ready limits now) (hle : now ≤ now')
    (hhealth : c'.health = c.health) (hsession : c'.session = c.session)
    (hcontacts : c'.contacts = contact :: c.contacts)
    (hopened : ∀ later, lastOpened? (contact :: later) = lastOpened? later)
    (hbackoff : contact.backoffEnd? limits = backoffAfter? limits now' e) :
    c'.FailedWith limits e (c.UsesFresh limits) now' := by
  refine ⟨hhealth ▸ h.free, fun he ↦ ?_, fun he ↦ ?_⟩
  · rw [backoffAfter?, if_pos he] at hbackoff
    rw [hcontacts]
    refine ⟨backoffsEndBy_cons (fun backoffEnd hend ↦ ?_) ?_, fun generation _ ↦
      not_isFresh_of_backoff hbackoff⟩
    · obtain rfl := Option.some.inj (hbackoff.symm.trans hend)
      exact Nat.le_refl _
    · exact h.past.mono (Nat.le_trans hle (le_after _ _))
  · rw [backoffAfter?, if_neg (by rw [he]; decide)] at hbackoff
    have hpassing : IsPassing limits contact := ⟨hopened, hbackoff⟩
    rw [hcontacts]
    exact ⟨backoffsEndBy_passing hpassing (h.past.mono hle),
      usesFresh_passing hpassing hsession hcontacts⟩

variable (limits) in
/-- What a ping comes to: whether it goes to a fresh session, and what follows from its result. -/
structure PingedFrom (c : Connection (Journaled σ))
    (pinged : Settled (Journaled σ) (Except DbError Unit)) : Prop where
  pings : PingsAreFresh limits pinged.connection.contacts ↔
    PingsAreFresh limits c.contacts ∧ c.UsesFresh limits
  ready : ∀ u, pinged.result = .ok u → pinged.connection.Ready limits pinged.now ∧
    (pinged.connection.UsesFresh limits ↔ c.UsesFresh limits)
  failed : ∀ e, pinged.result = .error e →
    pinged.connection.FailedWith limits e (c.UsesFresh limits) pinged.now

theorem pingedFrom_ping {now : Instant} {c : Connection (Journaled σ)} (h : c.Ready limits now) :
    PingedFrom limits c (c.ping server.journaled limits now) := by
  rcases c with ⟨target, session, health, journal⟩
  cases session with
  | unavailable reason =>
    -- Nothing is sent, and the failure is that of a closed session.
    have hfresh : (⟨target, .unavailable reason, health, journal⟩ :
        Connection (Journaled σ)).UsesFresh limits := usesFresh_of_unavailable rfl
    refine ⟨⟨fun hpings ↦ ⟨hpings, hfresh⟩, fun hpings ↦ hpings.1⟩, fun u hu ↦ ?_, fun e he ↦ ?_⟩
    · exact absurd ((Reply.within_atOnce _ _).symm.trans hu) nofun
    · obtain rfl := Except.error.inj ((Reply.within_atOnce _ _).symm.trans he)
      exact ⟨h.free, nofun, fun _ ↦ ⟨h.past.mono (le_after _ _), Iff.rfl⟩⟩
  | live generation =>
    have hfresh : (⟨target, .live generation, health, journal⟩ :
        Connection (Journaled σ)).UsesFresh limits ↔ IsFresh limits generation journal.contacts :=
      usesFresh_of_live rfl
    have hle := le_after now
      (((server now).ping generation journal.database).1.elapsed limits.pingTimeout)
    refine ⟨?_, fun u hu ↦ ?_, fun e he ↦ ?_⟩
    · refine pingsAreFresh_cons.trans (and_congr_right fun _ ↦ ?_)
      rw [hfresh]
      constructor
      · exact fun hall ↦ hall now generation _ rfl
      · intro hall _ _ _ heq
        obtain ⟨-, rfl, -⟩ := Contact.pinged.inj heq
        exact hall
    · have hpassing : IsPassing limits (.pinged now generation
          ((server now).ping generation journal.database).1) :=
        ⟨fun _ ↦ rfl, backoffOf?_of_ok hu⟩
      exact ⟨⟨h.free, backoffsEndBy_passing hpassing (h.past.mono hle)⟩,
        usesFresh_passing hpassing rfl rfl⟩
    · exact failedWith_contact h hle rfl rfl rfl (fun _ ↦ rfl) (backoffOf?_of_error he)

/-- A session that was made is fresh. -/
theorem ready_reconnect {now : Instant} {c : Connection (Journaled σ)} {generation : Nat}
    {database : σ} (h : c.Ready limits now)
    (hserver : (server now).connect c.database.database = (.ok generation, database)) :
    ∃ c' : Connection (Journaled σ), c.reconnect server.journaled now = (.ok (), c') ∧
      c'.Ready limits now ∧ c'.UsesFresh limits ∧
      (PingsAreFresh limits c'.contacts ↔ PingsAreFresh limits c.contacts) := by
  rw [reconnect, Clocked.connect_journaled_of_ok hserver]
  have hfresh : IsFresh limits generation (.opened now generation :: c.contacts) :=
    isFresh_opened h.past
  exact ⟨_, rfl, ⟨h.free, backoffsEndBy_cons (by simp [backoffEnd?]) h.past⟩,
    (usesFresh_of_live rfl).2 hfresh, pingsAreFresh_cons.trans (and_iff_left (by simp))⟩

/-- A session that could not be made. -/
theorem failedWith_reconnect {now : Instant} {c : Connection (Journaled σ)} {e : DbError}
    {database : σ} (h : c.Ready limits now)
    (hserver : (server now).connect c.database.database = (.error e, database)) :
    ∃ c' : Connection (Journaled σ), c.reconnect server.journaled now = (.error e, c') ∧
      c'.FailedWith limits e (c.UsesFresh limits) now ∧
      (PingsAreFresh limits c'.contacts ↔ PingsAreFresh limits c.contacts) := by
  rw [reconnect, Clocked.connect_journaled_of_error hserver]
  exact ⟨_, rfl, failedWith_contact h (Nat.le_refl _) rfl rfl rfl (fun _ ↦ rfl) rfl,
    pingsAreFresh_cons.trans (and_iff_left (by simp))⟩

/-! ## Checks -/

variable (limits) in
/-- What a part of a check that pings comes to, when it begins without a backoff. -/
structure ProbedFrom (c : Connection (Journaled σ)) (probed : Settled (Journaled σ) Health) :
    Prop where
  sound : probed.connection.Sound limits probed.now
  pings : PingsAreFresh limits probed.connection.contacts ↔
    PingsAreFresh limits c.contacts ∧ c.UsesFresh limits
  remembers : c.UsesFresh limits → ¬ probed.connection.Forgotten limits

/-- A ping that is taken for final. -/
theorem probedFrom_succeed {now : Instant} {c c' : Connection (Journaled σ)}
    (hready : c'.Ready limits now) (hfresh : c'.UsesFresh limits ↔ c.UsesFresh limits)
    (hpings : PingsAreFresh limits c'.contacts ↔
      PingsAreFresh limits c.contacts ∧ c.UsesFresh limits) :
    ProbedFrom limits c (c'.succeed now) := by
  have hsettled : Ready limits now (c'.succeed now).connection := ⟨hready.free, hready.past⟩
  exact ⟨hsettled.sound, hpings, fun hf hnot ↦ hnot.2 (hfresh.2 hf)⟩

/-- A failure that is taken for final. -/
theorem probedFrom_fail {now : Instant} {c c' : Connection (Journaled σ)} {e : DbError}
    (hfailed : c'.FailedWith limits e (c.UsesFresh limits) now)
    (hpings : PingsAreFresh limits c'.contacts ↔
      PingsAreFresh limits c.contacts ∧ c.UsesFresh limits) :
    ProbedFrom limits c (c'.fail limits now e) := by
  obtain ⟨hsound, hforgotten⟩ := hfailed.fail
  refine ⟨?_, ?_, fun hf hnot ↦ (hforgotten.1 hnot).2 hf⟩
  · rw [now_fail]
    exact hsound
  · rw [contacts_fail]
    exact hpings

theorem probedFrom_probeOnce {now : Instant} {c : Connection (Journaled σ)}
    (h : c.Ready limits now) : ProbedFrom limits c (c.probeOnce server.journaled limits now) := by
  have hpinged : PingedFrom limits c (c.ping server.journaled limits now) := pingedFrom_ping h
  rw [probeOnce]
  generalize c.ping server.journaled limits now = pinged at hpinged ⊢
  cases hresult : pinged.result with
  | ok u =>
    obtain ⟨hready, hfresh⟩ := hpinged.ready u hresult
    exact probedFrom_succeed hready hfresh hpinged.pings
  | error e => exact probedFrom_fail (hpinged.failed e hresult) hpinged.pings

variable (server) in
/-- A session cannot be made, but not because of the credentials. -/
def RebuildFails (now : Instant) (c : Connection (Journaled σ)) : Prop :=
  ∃ e database, (server now).connect c.database.database = (.error e, database) ∧
    e.isInvalidCredentials = false

variable (server limits) in
/-- What making a session and going on with it comes to. -/
structure RebuiltFrom (now : Instant) (c : Connection (Journaled σ))
    (rebuilt : Settled (Journaled σ) Health) : Prop where
  sound : rebuilt.connection.Sound limits rebuilt.now
  pings : PingsAreFresh limits rebuilt.connection.contacts ↔ PingsAreFresh limits c.contacts
  forgotten : rebuilt.connection.Forgotten limits ↔
    c.RebuildFails server now ∧ ¬ c.UsesFresh limits

theorem rebuiltFrom_rebuildThen {next : Instant → Connection (Journaled σ) →
    Settled (Journaled σ) Health}
    (hnext : ∀ now c, c.Ready limits now → ProbedFrom limits c (next now c)) {now : Instant}
    {c : Connection (Journaled σ)} (h : c.Ready limits now) :
    RebuiltFrom server limits now c (c.rebuildThen server.journaled limits next now) := by
  rcases hserver : (server now).connect c.database.database with ⟨result, database⟩
  cases result with
  | ok generation =>
    obtain ⟨c', hconnect, hready, hfresh, hpings⟩ := ready_reconnect h hserver
    obtain ⟨hsound, hprobed, hremembers⟩ := hnext now c' hready
    rw [rebuildThen, hconnect]
    -- From a fresh session on, nothing is forgotten.
    refine ⟨hsound, (hprobed.trans (and_iff_left hfresh)).trans hpings, ?_⟩
    refine ⟨fun hnot ↦ absurd hnot (hremembers hfresh), ?_⟩
    rintro ⟨⟨e, database', heq, -⟩, -⟩
    rw [hserver] at heq
    cases heq
  | error e =>
    obtain ⟨c', hconnect, hfailed, hpings⟩ := failedWith_reconnect h hserver
    obtain ⟨hsound, hforgotten⟩ := hfailed.fail
    rw [rebuildThen, hconnect]
    refine ⟨?_, ?_, hforgotten.trans (and_congr_left fun _ ↦ ?_)⟩
    · rw [now_fail]
      exact hsound
    · rw [contacts_fail]
      exact hpings
    · constructor
      · exact fun he ↦ ⟨e, database, hserver, he⟩
      · rintro ⟨e', database', heq, he⟩
        rw [hserver] at heq
        cases heq
        exact he

theorem probedFrom_probe {now : Instant} {c : Connection (Journaled σ)}
    (h : c.Ready limits now) : ProbedFrom limits c (c.probe server.journaled limits now) := by
  have hpinged : PingedFrom limits c (c.ping server.journaled limits now) := pingedFrom_ping h
  rw [probe]
  generalize c.ping server.journaled limits now = pinged at hpinged ⊢
  cases hresult : pinged.result with
  | ok u =>
    obtain ⟨hready, hfresh⟩ := hpinged.ready u hresult
    exact probedFrom_succeed hready hfresh hpinged.pings
  | error e =>
    have hfailed := hpinged.failed e hresult
    dsimp only
    by_cases hclosed : e.isClosed = true
    · -- A closed session is no rejection, so the target is still without a backoff.
      have hother := DbError.isInvalidCredentials_of_isClosed hclosed
      obtain ⟨hpast, hfresh⟩ := hfailed.kept hother
      have hready : pinged.connection.Ready limits pinged.now := ⟨hfailed.free, hpast⟩
      have hrebuilt : RebuiltFrom server limits pinged.now pinged.connection
          (pinged.connection.rebuildThen server.journaled limits
            (fun now c ↦ c.probeOnce server.journaled limits now) pinged.now) :=
        rebuiltFrom_rebuildThen (fun _ _ ↦ probedFrom_probeOnce) hready
      rw [if_pos hclosed]
      exact ⟨hrebuilt.sound, hrebuilt.pings.trans hpinged.pings,
        fun hf hnot ↦ (hrebuilt.forgotten.1 hnot).2 (hfresh.2 hf)⟩
    · rw [if_neg hclosed]
      exact probedFrom_fail hfailed hpinged.pings

variable (server) in
/-- A check that begins now ends a backoff without a session in its place: the session cannot be
made, but not because of the credentials, and the one whose credentials were rejected stays. -/
structure Forgets (now : Instant) (c : Connection (Journaled σ)) : Prop where
  elapsed : ∃ moment, c.health.invalidUntil = some moment ∧ moment ≤ now
  live : ∃ generation, c.session = .live generation
  fails : c.RebuildFails server now

variable (server limits) in
/-- What a check comes to. -/
structure CheckedFrom (now : Instant) (c : Connection (Journaled σ))
    (checked : Settled (Journaled σ) Health) : Prop where
  sound : checked.connection.Sound limits checked.now
  pings : PingsAreFresh limits checked.connection.contacts ↔
    PingsAreFresh limits c.contacts ∧ ¬ c.Forgotten limits
  forgotten : ¬ c.Forgotten limits →
    (checked.connection.Forgotten limits ↔ c.Forgets server now)

theorem checkedFrom_check {now : Instant} {c : Connection (Journaled σ)}
    (h : c.Sound limits now) :
    CheckedFrom server limits now c (c.check server.journaled limits now) := by
  cases huntil : c.health.invalidUntil with
  | none =>
    have hready : c.withoutBackoff.Ready limits now := ⟨rfl, h.past huntil⟩
    have hprobed : ProbedFrom limits c.withoutBackoff
        (c.withoutBackoff.probe server.journaled limits now) := probedFrom_probe hready
    -- The session in use is pinged, and without a backoff nothing tells whether it is fresh.
    have hfresh : ¬ c.Forgotten limits ↔ c.UsesFresh limits := by
      rw [Forgotten, and_iff_right huntil, Classical.not_not]
    rw [check_of_free server.journaled limits huntil]
    refine ⟨hprobed.sound, hprobed.pings.trans (and_congr_right fun _ ↦ hfresh.symm),
      fun hnot ↦ ⟨fun hf ↦ absurd hf (hprobed.remembers (hfresh.1 hnot)), ?_⟩⟩
    rintro ⟨⟨moment, hmoment, -⟩, -, -⟩
    rw [huntil] at hmoment
    cases hmoment
  | some moment =>
    have hnot : ¬ c.Forgotten limits := by
      rintro ⟨hnone, -⟩
      rw [huntil] at hnone
      cases hnone
    by_cases hover : moment ≤ now
    · -- The end of the backoff is gone from here on, whether or not a session can be made.
      have hready : c.withoutBackoff.Ready limits now :=
        ⟨rfl, (h.pending moment huntil).mono hover⟩
      have hrebuilt : RebuiltFrom server limits now c.withoutBackoff
          (c.withoutBackoff.rebuildThen server.journaled limits
            (fun now c ↦ c.probe server.journaled limits now) now) :=
        rebuiltFrom_rebuildThen (fun _ _ ↦ probedFrom_probe) hready
      rw [check_of_over server.journaled limits huntil hover]
      refine ⟨hrebuilt.sound, hrebuilt.pings.trans (and_iff_left hnot).symm,
        fun _ ↦ hrebuilt.forgotten.trans ?_⟩
      constructor
      · rintro ⟨hfails, hstale⟩
        refine ⟨⟨moment, huntil, hover⟩, ?_, hfails⟩
        cases hsession : c.session with
        | live generation => exact ⟨generation, rfl⟩
        | unavailable reason => exact absurd (usesFresh_of_unavailable hsession) hstale
      · rintro ⟨-, ⟨generation, hlive⟩, hfails⟩
        exact ⟨hfails, fun hfresh ↦
          h.stale moment generation huntil hlive (hfresh generation hlive)⟩
    · rw [check_of_under server.journaled limits huntil hover]
      refine ⟨⟨h.bounded, h.pending, h.stale, h.past⟩, (and_iff_left hnot).symm, fun _ ↦ ?_⟩
      constructor
      · exact fun hf ↦ absurd hf hnot
      · rintro ⟨⟨moment', hmoment, hle⟩, -, -⟩
        rw [huntil] at hmoment
        obtain rfl := Option.some.inj hmoment
        exact absurd hle hover

/-! ## Warming up -/

variable (limits) in
/-- What a warm-up comes to. -/
structure WarmedFrom (c : Connection (Journaled σ)) (warmed : Settled (Journaled σ) Bool) :
    Prop where
  sound : warmed.connection.Sound limits warmed.now
  pings : PingsAreFresh limits warmed.connection.contacts ↔ PingsAreFresh limits c.contacts
  free : warmed.connection.health.invalidUntil = none → c.health.invalidUntil = none
  fresh : warmed.connection.health.invalidUntil = none →
    (warmed.connection.UsesFresh limits ↔ c.UsesFresh limits)

/-- A warm-up that did not begin a backoff. -/
theorem warmedFrom_of_eq {now : Instant} {c c' : Connection (Journaled σ)} {full : Bool}
    (h : c.Sound limits now) (huntil : c'.health.invalidUntil = c.health.invalidUntil)
    (hsession : c'.session = c.session) (hcontacts : c'.contacts = c.contacts) :
    WarmedFrom limits c ⟨full, c', now⟩ := by
  obtain ⟨hbounded, hpending, hstale, hpast⟩ := h
  rw [← huntil, ← hcontacts] at hpending hpast
  rw [← huntil, ← hsession, ← hcontacts] at hstale
  rw [← hcontacts] at hbounded
  refine ⟨⟨hbounded, hpending, hstale, hpast⟩, ?_, fun hnone ↦ huntil ▸ hnone, fun _ ↦ ?_⟩
  · rw [hcontacts]
  · rw [UsesFresh, hsession, hcontacts, ← UsesFresh]

theorem sound_passing {now : Instant} {c c' : Connection (Journaled σ)} {contact : Contact}
    (h : c.Sound limits now) (hpassing : IsPassing limits contact)
    (hhealth : c'.health = c.health) (hsession : c'.session = c.session)
    (hcontacts : c'.contacts = contact :: c.contacts) : c'.Sound limits now := by
  obtain ⟨hbounded, hpending, hstale, hpast⟩ := h
  refine ⟨?_, fun moment hm ↦ ?_, fun moment generation hm hlive ↦ ?_, fun hnone ↦ ?_⟩
  · rw [hcontacts]
    exact backoffsEndBy_passing hpassing hbounded
  · rw [hcontacts]
    exact backoffsEndBy_passing hpassing (hpending moment (hhealth ▸ hm))
  · rw [hcontacts, isFresh_cons hpassing.opened hpassing.backoff]
    exact hstale moment generation (hhealth ▸ hm) (hsession ▸ hlive)
  · rw [hcontacts]
    exact backoffsEndBy_passing hpassing (hpast (hhealth ▸ hnone))

/-- A lease that does not reject credentials changes nothing for what follows. -/
theorem WarmedFrom.of_passing {c c' : Connection (Journaled σ)}
    {warmed : Settled (Journaled σ) Bool} {now : Instant} {generation : Nat} {reply : Reply Unit}
    (h : WarmedFrom limits c' warmed) (hpassing : IsPassing limits (.leased now generation reply))
    (hhealth : c'.health = c.health) (hsession : c'.session = c.session)
    (hcontacts : c'.contacts = .leased now generation reply :: c.contacts) :
    WarmedFrom limits c warmed := by
  refine ⟨h.sound, h.pings.trans ?_, fun hnone ↦ hhealth ▸ h.free hnone,
    fun hnone ↦ (h.fresh hnone).trans (usesFresh_passing hpassing hsession hcontacts)⟩
  rw [hcontacts]
  exact pingsAreFresh_cons.trans (and_iff_left (by simp))

/-- A lease that rejects credentials begins a backoff. -/
theorem warmedFrom_rejected {c c' : Connection (Journaled σ)} {now now' : Instant}
    {generation : Nat} {reply : Reply Unit} {e : DbError} (h : c.Sound limits now')
    (he : e.isInvalidCredentials = true)
    (hbackoff : (Contact.leased now generation reply).backoffEnd? limits =
      backoffAfter? limits now' e)
    (hcontacts : c'.contacts = .leased now generation reply :: c.contacts) :
    WarmedFrom limits c (c'.notWarmed limits now' e) := by
  rw [backoffAfter?, if_pos he] at hbackoff
  have hbounded : BackoffsEndBy limits (now'.after limits.backoff) c'.contacts := by
    rw [hcontacts]
    refine backoffsEndBy_cons (fun backoffEnd hend ↦ ?_) h.bounded
    obtain rfl := Option.some.inj (hbackoff.symm.trans hend)
    exact Nat.le_refl _
  rw [notWarmed, fail, if_pos he]
  refine ⟨⟨hbounded, fun moment hm ↦ ?_, fun _ generation' _ _ ↦ ?_, by simp⟩, ?_, by simp, by simp⟩
  · obtain rfl := Option.some.inj hm
    exact hbounded
  · change ¬ IsFresh limits generation' c'.contacts
    rw [hcontacts]
    exact not_isFresh_of_backoff hbackoff
  · change PingsAreFresh limits c'.contacts ↔ _
    rw [hcontacts]
    exact pingsAreFresh_cons.trans (and_iff_left (by simp))

/-- A warm-up that stops without a rejection. -/
theorem warmedFrom_notWarmed {now : Instant} {c : Connection (Journaled σ)} {e : DbError}
    (h : c.Sound limits now) (he : e.isInvalidCredentials = false) :
    WarmedFrom limits c (c.notWarmed limits now e) := by
  rw [notWarmed, fail, if_neg (by rw [he]; decide)]
  exact warmedFrom_of_eq h rfl rfl rfl

theorem warmedFrom_takeLeases (left : Nat) {now : Instant} {c : Connection (Journaled σ)}
    (h : c.Sound limits now) :
    WarmedFrom limits c (c.takeLeases server.journaled limits left now) := by
  -- On the leases that are left: one that passes hands a sound connection to the next, one that
  -- does not is the last.
  induction left generalizing now c with
  | zero => exact warmedFrom_of_eq h rfl rfl rfl
  | succ left ih =>
    rcases c with ⟨target, session, health, journal⟩
    rw [takeLeases]
    cases session with
    | unavailable reason =>
      simp only [Session.lease, Reply.within_atOnce]
      exact warmedFrom_notWarmed
        (h.mono (Nat.le_trans (le_after _ _) (le_after _ _))) rfl
    | live generation =>
      rcases hserver : (server (now.after limits.warmUpDelay)).lease generation
        journal.database with ⟨reply, database⟩
      have hsound : Sound limits ((now.after limits.warmUpDelay).after
          (reply.elapsed limits.warmUpTimeout))
          (⟨target, .live generation, health, journal⟩ : Connection (Journaled σ)) :=
        h.mono (Nat.le_trans (le_after _ _) (le_after _ _))
      have hpassed (hpassing : IsPassing limits
          (.leased (now.after limits.warmUpDelay) generation reply)) :
          Sound limits ((now.after limits.warmUpDelay).after
            (reply.elapsed limits.warmUpTimeout))
            (⟨target, .live generation, health, ⟨database, .leased
              (now.after limits.warmUpDelay) generation reply :: journal.contacts⟩⟩ :
                Connection (Journaled σ)) :=
        sound_passing hsound hpassing rfl rfl rfl
      simp only [Session.lease, Clocked.journaled, hserver]
      cases hreply : reply.within limits.warmUpTimeout with
      | ok u =>
        have hpassing : IsPassing limits
            (.leased (now.after limits.warmUpDelay) generation reply) :=
          ⟨fun _ ↦ rfl, backoffOf?_of_ok hreply⟩
        exact (ih (hpassed hpassing)).of_passing hpassing rfl rfl rfl
      | error e =>
        have hbackoff :
            (leased (now.after limits.warmUpDelay) generation reply).backoffEnd? limits =
              backoffAfter? limits ((now.after limits.warmUpDelay).after
                (reply.elapsed limits.warmUpTimeout)) e := backoffOf?_of_error hreply
        cases he : e.isInvalidCredentials with
        | true => exact warmedFrom_rejected hsound he hbackoff rfl
        | false =>
          have hpassing : IsPassing limits
              (.leased (now.after limits.warmUpDelay) generation reply) :=
            ⟨fun _ ↦ rfl, hbackoff.trans (if_neg (by rw [he]; decide))⟩
          exact (warmedFrom_notWarmed (hpassed hpassing) he).of_passing hpassing rfl rfl rfl

end Connection

/-! ## Runs -/

namespace Attended

variable (server limits) in
/-- A target when the exporter starts, with an empty journal. -/
def begin (now : Instant) (target : Target) (database : σ) : Attended (Journaled σ) :=
  let c := Connection.start server now target database
  ⟨now, ⟨c.target, c.session, c.health, ⟨c.database, []⟩⟩⟩

/-- The connection without its journal. -/
def plain (x : Attended (Journaled σ)) : Attended σ := ⟨x.now, x.connection.plain⟩

theorem plain_begin (now : Instant) (target : Target) (database : σ) :
    (begin server now target database).plain = ⟨now, .start server now target database⟩ := rfl

/-- A run with a journal is a run without it. -/
theorem plain_run (x : Attended (Journaled σ)) (events : List Upkeep) :
    run server limits x.plain events = (run server.journaled limits x events).plain := by
  induction events using List.reverseRecOn with
  | nil => rfl
  | append_singleton events event ih =>
    rw [run_concat, run_concat, ih]
    cases event with
    | check wait =>
      rw [step, step]
      simp only [plain, Connection.plain_check]
      rfl
    | warmUp wait =>
      rw [step, step]
      simp only [plain, Connection.plain_warmUp]
      rfl

variable (server limits) in
/-- The last check of these forgot a rejection, and no warm-up after it met another one. -/
def Forgets (x : Attended (Journaled σ)) (events : List Upkeep) : Prop :=
  ∃ earlier wait later, events = earlier ++ .check wait :: later ∧
    (∀ event ∈ later, ∃ wait, event = .warmUp wait) ∧
    (run server.journaled limits x earlier).connection.Forgets server
      ((run server.journaled limits x earlier).now.after wait) ∧
    (run server.journaled limits x events).connection.health.invalidUntil = none

theorem ready_begin (now : Instant) (target : Target) (database : σ) :
    (begin server now target database).connection.Ready limits now := by
  have hhealth := Connection.health_start server now target database
  exact ⟨by rw [begin]; dsimp only; rw [hhealth], fun _ hmem ↦ by cases hmem⟩

theorem usesFresh_begin (now : Instant) (target : Target) (database : σ) :
    (begin server now target database).connection.UsesFresh limits :=
  fun _ _ later _ _ _ hsplit ↦ by cases later <;> cases hsplit

theorem sound_step {x : Attended (Journaled σ)} (h : x.connection.Sound limits x.now)
    (event : Upkeep) :
    (step server.journaled limits x event).connection.Sound limits
      (step server.journaled limits x event).now := by
  cases event with
  | check wait => exact (Connection.checkedFrom_check (h.mono (Connection.le_after _ wait))).sound
  | warmUp wait =>
    exact (Connection.warmedFrom_takeLeases _ (h.mono (Connection.le_after _ wait))).sound

theorem sound_run {x : Attended (Journaled σ)} (h : x.connection.Sound limits x.now)
    (events : List Upkeep) :
    (run server.journaled limits x events).connection.Sound limits
      (run server.journaled limits x events).now := by
  induction events using List.reverseRecOn with
  | nil => exact h
  | append_singleton events event ih =>
    rw [run_concat]
    exact sound_step ih event

variable (server) in
/-- What one more check comes to. -/
theorem checkedFrom_run {x : Attended (Journaled σ)} (h : x.connection.Sound limits x.now)
    (events : List Upkeep) (wait : Duration) :
    Connection.CheckedFrom server limits ((run server.journaled limits x events).now.after wait)
      (run server.journaled limits x events).connection
      ((run server.journaled limits x events).connection.check server.journaled limits
        ((run server.journaled limits x events).now.after wait)) :=
  Connection.checkedFrom_check ((sound_run h events).mono (Connection.le_after _ wait))

variable (server) in
/-- What one more warm-up comes to. -/
theorem warmedFrom_run {x : Attended (Journaled σ)} (h : x.connection.Sound limits x.now)
    (events : List Upkeep) (wait : Duration) :
    Connection.WarmedFrom limits (run server.journaled limits x events).connection
      ((run server.journaled limits x events).connection.warmUp server.journaled limits
        ((run server.journaled limits x events).now.after wait)) :=
  Connection.warmedFrom_takeLeases _ ((sound_run h events).mono (Connection.le_after _ wait))

theorem forgets_concat_check {x : Attended (Journaled σ)} {events : List Upkeep}
    {wait : Duration} :
    x.Forgets server limits (events ++ [.check wait]) ↔
      (run server.journaled limits x events).connection.Forgets server
        ((run server.journaled limits x events).now.after wait) ∧
      (run server.journaled limits x (events ++ [.check wait])).connection.health.invalidUntil =
        none := by
  constructor
  · rintro ⟨earlier, wait', later, hsplit, hlater, hforgets, hfree⟩
    rcases Upkeep.concat_eq_split.1 hsplit with ⟨rfl, hcheck, -⟩ | ⟨rest, rfl, -⟩
    · obtain rfl := Upkeep.check.inj hcheck
      exact ⟨hforgets, hfree⟩
    · obtain ⟨wait'', hwarm⟩ := hlater (.check wait) (by simp)
      cases hwarm
  · rintro ⟨hforgets, hfree⟩
    exact ⟨events, wait, [], rfl, nofun, hforgets, hfree⟩

theorem forgets_concat_warmUp {x : Attended (Journaled σ)} (h : x.connection.Sound limits x.now)
    {events : List Upkeep} {wait : Duration} :
    x.Forgets server limits (events ++ [.warmUp wait]) ↔ x.Forgets server limits events ∧
      (run server.journaled limits x (events ++ [.warmUp wait])).connection.health.invalidUntil =
        none := by
  constructor
  · rintro ⟨earlier, wait', later, hsplit, hlater, hforgets, hfree⟩
    rcases Upkeep.concat_eq_split.1 hsplit with ⟨-, hcheck, -⟩ | ⟨rest, rfl, rfl⟩
    · cases hcheck
    · refine ⟨⟨earlier, wait', rest, rfl, fun event hmem ↦ hlater event (by simp [hmem]),
        hforgets, ?_⟩, hfree⟩
      rw [run_concat] at hfree
      exact (warmedFrom_run server h _ wait).free hfree
  · rintro ⟨⟨earlier, wait', later, rfl, hlater, hforgets, -⟩, hfree⟩
    refine ⟨earlier, wait', later ++ [.warmUp wait], by simp, fun event hmem ↦ ?_, hforgets, hfree⟩
    rcases List.mem_append.1 hmem with hmem | hmem
    · exact hlater event hmem
    · exact ⟨wait, List.mem_singleton.1 hmem⟩

/-- As long as all pings were fresh, a rejection is forgotten only by a check that forgets it. -/
theorem forgotten_run {x : Attended (Journaled σ)} (h : x.connection.Sound limits x.now)
    (hfresh : x.connection.UsesFresh limits) {events : List Upkeep}
    (hpings : PingsAreFresh limits (run server.journaled limits x events).connection.contacts) :
    (run server.journaled limits x events).connection.Forgotten limits ↔
      x.Forgets server limits events := by
  -- Only the last check and what follows it count, so the run is taken apart from its end.
  induction events using List.reverseRecOn with
  | nil =>
    refine ⟨fun hforgotten ↦ absurd hfresh hforgotten.2, ?_⟩
    rintro ⟨earlier, wait, later, hsplit, -⟩
    cases earlier <;> cases hsplit
  | append_singleton events event ih =>
    cases event with
    | check wait =>
      rw [forgets_concat_check]
      rw [run_concat] at hpings ⊢
      have hchecked := checkedFrom_run server h events wait
      obtain ⟨-, hnot⟩ := hchecked.pings.1 hpings
      have hforgets := hchecked.forgotten hnot
      exact ⟨fun hforgotten ↦ ⟨hforgets.1 hforgotten, hforgotten.1⟩,
        fun hboth ↦ hforgets.2 hboth.1⟩
    | warmUp wait =>
      rw [forgets_concat_warmUp h]
      rw [run_concat] at hpings ⊢
      have hwarmed := warmedFrom_run server h events wait
      rw [← ih (hwarmed.pings.1 hpings)]
      constructor
      · rintro ⟨hfree, hstale⟩
        exact ⟨⟨hwarmed.free hfree, fun hf ↦ hstale ((hwarmed.fresh hfree).2 hf)⟩, hfree⟩
      · rintro ⟨⟨-, hstale⟩, hfree⟩
        exact ⟨hfree, fun hf ↦ hstale ((hwarmed.fresh hfree).1 hf)⟩

/-- Behind a rejection of credentials, all pings go to sessions made after the backoff as long as
no check follows one that forgets it. -/
theorem pingsAreFresh_run_iff {x : Attended (Journaled σ)}
    (h : x.connection.Sound limits x.now) (hfresh : x.connection.UsesFresh limits)
    (hpings : PingsAreFresh limits x.connection.contacts) (events : List Upkeep) :
    PingsAreFresh limits (run server.journaled limits x events).connection.contacts ↔
      ∀ earlier wait later, events = earlier ++ .check wait :: later →
        ¬ x.Forgets server limits earlier := by
  -- From the end again: whether a check pings depends on all that was done before it.
  induction events using List.reverseRecOn with
  | nil =>
    refine ⟨fun _ earlier wait later hsplit ↦ ?_, fun _ ↦ hpings⟩
    cases earlier <;> cases hsplit
  | append_singleton events event ih =>
    rw [run_concat]
    cases event with
    | check wait =>
      refine (checkedFrom_run server h events wait).pings.trans ?_
      constructor
      · rintro ⟨hall, hnot⟩ earlier wait' later hsplit
        rcases Upkeep.concat_eq_split.1 hsplit with ⟨rfl, -, -⟩ | ⟨rest, -, hevents⟩
        · exact fun hforgets ↦ hnot ((forgotten_run h hfresh hall).2 hforgets)
        · exact ih.1 hall earlier wait' rest hevents
      · intro hnone
        have hall := ih.2 fun earlier wait' later hevents ↦
          hnone earlier wait' (later ++ [.check wait]) (by simp [hevents])
        exact ⟨hall, fun hforgotten ↦
          hnone events wait [] rfl ((forgotten_run h hfresh hall).1 hforgotten)⟩
    | warmUp wait =>
      refine (warmedFrom_run server h events wait).pings.trans (ih.trans ?_)
      constructor
      · intro hnone earlier wait' later hsplit
        rcases Upkeep.concat_eq_split.1 hsplit with ⟨-, hcheck, -⟩ | ⟨rest, -, hevents⟩
        · cases hcheck
        · exact hnone earlier wait' rest hevents
      · intro hnone earlier wait' later hevents
        exact hnone earlier wait' (later ++ [.warmUp wait]) (by simp [hevents])

/-- In a run of checks and warm-ups from the start, every ping behind a rejection of credentials
goes to a session made after the backoff of the rejection, if and only if no check follows one that
forgets a rejection. -/
theorem pingsAreFresh_iff (server : Clocked σ) (limits : ConnectionLimits) (now : Instant)
    (target : Target) (database : σ) (events : List Upkeep) :
    PingsAreFresh limits
        (run server.journaled limits (begin server now target database)
          events).connection.contacts ↔
      ∀ earlier wait later, events = earlier ++ .check wait :: later →
        ¬ (begin server now target database).Forgets server limits earlier :=
  pingsAreFresh_run_iff (ready_begin now target database).sound
    (usesFresh_begin now target database) pingsAreFresh_nil events

/-- A database that rejects the credentials once, and cannot be reached when a session is to be
made after the backoff. -/
def unreachableOnce : Rehearsal :=
  { openScript := [none, some (.other "unreachable")],
    pingScript := [some (.invalidCredentials "28P01" "rejected")] }

/-- Three checks of that database. The backoff is over with the second one. -/
def afterOutage : Attended (Journaled Rehearsal) :=
  run Rehearsal.server.steady.journaled {}
    (begin Rehearsal.server.steady .zero ⟨"db", { url := "" }, []⟩ unreachableOnce)
    [.check .zero, .check (.ofSeconds 300), .check .zero]

/-- The third check pings the session whose credentials were rejected. -/
theorem not_pingsAreFresh_afterOutage :
    ¬ PingsAreFresh {} afterOutage.connection.contacts := by
  intro hpings
  have hcontacts : ∃ reply, afterOutage.connection.contacts =
      [.pinged (Instant.after .zero (.ofSeconds 300)) 1 reply,
        .refused (Instant.after .zero (.ofSeconds 300)) (.other "unreachable"),
        .pinged .zero 1 (.atOnce (.error (.invalidCredentials "28P01" "rejected")))] := ⟨_, rfl⟩
  obtain ⟨reply, hcontacts⟩ := hcontacts
  have hfresh : IsFresh {} 1 [.refused (Instant.after .zero (.ofSeconds 300))
      (.other "unreachable"),
      .pinged .zero 1 (.atOnce (.error (.invalidCredentials "28P01" "rejected")))] :=
    hpings [] _ 1 reply _ hcontacts
  obtain ⟨now, hopened, -⟩ := hfresh [_] _ [] _ rfl rfl
  cases hopened

end Attended

end Telemetry
