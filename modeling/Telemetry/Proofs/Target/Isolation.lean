import Telemetry.Proofs.Target.Journal

/-!
# Targets that are left alone

A database that rejected credentials is not contacted again before the backoff is over, and the
first check after that contacts it (`attempted_check`). All who use a connection share one health,
which a check reads before anything else, so this comes down to what the health says of the journal.

## The invariant

`Guarded` says that no contact follows a rejection too early, and that from now on the health
refuses a target for exactly as long as a backoff of its journal goes on. A check takes the end of a
backoff away before it contacts anything; while it runs the connection is `Clear`, and its last
contact decides what the health has to say.
-/

namespace Telemetry

variable {σ : Type} {server : Clocked σ} {limits : ConnectionLimits}

theorem HealthState.isValidAt_iff {h : HealthState} {now : Instant} :
    h.isValidAt now = true ↔ ∀ moment, h.invalidUntil = some moment → moment ≤ now := by
  rw [isValidAt]
  cases h.invalidUntil with
  | none => simp
  | some moment => simp

/-! ## Contacts in time -/

namespace Contact

/-- The moment at which a contact begins. -/
def moment : Contact → Instant
  | .opened now _ | .refused now _ | .pinged now .. | .leased now .. | .fetched now .. => now

/-- A contact that finds out about a target: an attempt at a session, or a ping. -/
inductive IsAttemptAt (now : Instant) : Contact → Prop
  | opened (generation : Nat) : IsAttemptAt now (.opened now generation)
  | refused (e : DbError) : IsAttemptAt now (.refused now e)
  | pinged (generation : Nat) (reply : Reply Unit) : IsAttemptAt now (.pinged now generation reply)

/-- A query that is sent. -/
inductive IsQueryAt (now : Instant) : Contact → Prop
  | fetched (generation : Nat) (query : String) : IsQueryAt now (.fetched now generation query)

theorem IsAttemptAt.moment_eq {now : Instant} {contact : Contact} (h : contact.IsAttemptAt now) :
    contact.moment = now := by
  cases h <;> rfl

theorem IsQueryAt.moment_eq {now : Instant} {contact : Contact} (h : contact.IsQueryAt now) :
    contact.moment = now := by
  cases h
  rfl

theorem IsQueryAt.backoffEnd?_eq {now : Instant} {contact : Contact} (h : contact.IsQueryAt now) :
    contact.backoffEnd? limits = none := by
  cases h
  rfl

variable (limits) in
/-- A contact that rejects credentials, with the moment at which the answer comes: an attempt at a
session, or a ping or a lease that is answered in time. -/
inductive RejectsAt : Instant → Contact → Prop
  | refused (now : Instant) {e : DbError} (he : e.isInvalidCredentials = true) :
      RejectsAt now (.refused now e)
  | pinged (now : Instant) (generation : Nat) {reply : Reply Unit} {e : DbError}
      (hreply : reply.within limits.pingTimeout = .error e) (he : e.isInvalidCredentials = true) :
      RejectsAt (now.after (reply.elapsed limits.pingTimeout)) (.pinged now generation reply)
  | leased (now : Instant) (generation : Nat) {reply : Reply Unit} {e : DbError}
      (hreply : reply.within limits.warmUpTimeout = .error e) (he : e.isInvalidCredentials = true) :
      RejectsAt (now.after (reply.elapsed limits.warmUpTimeout)) (.leased now generation reply)

theorem backoffAfter?_eq_some_iff {now backoffEnd : Instant} {e : DbError} :
    backoffAfter? limits now e = some backoffEnd ↔
      e.isInvalidCredentials = true ∧ now.after limits.backoff = backoffEnd := by
  cases he : e.isInvalidCredentials with
  | true => simp [backoffAfter?, he]
  | false => simp [backoffAfter?, he]

theorem backoffOf?_eq_some_iff {deadline : Duration} {now backoffEnd : Instant}
    {reply : Reply Unit} :
    backoffOf? limits deadline now reply = some backoffEnd ↔
      ∃ e, reply.within deadline = .error e ∧ e.isInvalidCredentials = true ∧
        (now.after (reply.elapsed deadline)).after limits.backoff = backoffEnd := by
  cases hreply : reply.within deadline with
  | ok u => simp [backoffOf?_of_ok hreply]
  | error e => simp [backoffOf?_of_error hreply, backoffAfter?_eq_some_iff]

/-- A backoff goes on for its time from the moment of a rejection. -/
theorem backoffEnd?_eq_some_iff {contact : Contact} {backoffEnd : Instant} :
    contact.backoffEnd? limits = some backoffEnd ↔
      ∃ rejectedAt, contact.RejectsAt limits rejectedAt ∧
        rejectedAt.after limits.backoff = backoffEnd := by
  constructor
  · intro h
    cases contact with
    | opened now generation => cases h
    | fetched now generation query => cases h
    | refused now e =>
      obtain ⟨he, hend⟩ := backoffAfter?_eq_some_iff.1 h
      exact ⟨now, .refused now he, hend⟩
    | pinged now generation reply =>
      obtain ⟨e, hreply, he, hend⟩ := backoffOf?_eq_some_iff.1 h
      exact ⟨_, .pinged now generation hreply he, hend⟩
    | leased now generation reply =>
      obtain ⟨e, hreply, he, hend⟩ := backoffOf?_eq_some_iff.1 h
      exact ⟨_, .leased now generation hreply he, hend⟩
  · rintro ⟨rejectedAt, h, hend⟩
    cases h with
    | refused now he => exact backoffAfter?_eq_some_iff.2 ⟨he, hend⟩
    | pinged now generation hreply he => exact backoffOf?_eq_some_iff.2 ⟨_, hreply, he, hend⟩
    | leased now generation hreply he => exact backoffOf?_eq_some_iff.2 ⟨_, hreply, he, hend⟩

theorem backoffsEndBy_iff {moment : Instant} {contacts : List Contact} :
    BackoffsEndBy limits moment contacts ↔
      ∀ rejection ∈ contacts, ∀ rejectedAt, rejection.RejectsAt limits rejectedAt →
        rejectedAt.after limits.backoff ≤ moment := by
  refine forall₂_congr fun rejection _ ↦ ?_
  constructor
  · exact fun h rejectedAt hrejects ↦ h _ (backoffEnd?_eq_some_iff.2 ⟨rejectedAt, hrejects, rfl⟩)
  · intro h backoffEnd hend
    obtain ⟨rejectedAt, hrejects, rfl⟩ := backoffEnd?_eq_some_iff.1 hend
    exact h rejectedAt hrejects

variable (limits) in
/-- After a contact that rejected credentials, the next ones come when its backoff is over. -/
def Isolated (contacts : List Contact) : Prop :=
  ∀ later rejection earlier rejectedAt, contacts = later ++ rejection :: earlier →
    rejection.RejectsAt limits rejectedAt →
    ∀ contact ∈ later, rejectedAt.after limits.backoff ≤ contact.moment

theorem isolated_nil : Isolated limits [] := by
  intro later rejection earlier rejectedAt hsplit
  cases later <;> cases hsplit

theorem isolated_cons {contact : Contact} {contacts : List Contact} :
    Isolated limits (contact :: contacts) ↔
      Isolated limits contacts ∧ BackoffsEndBy limits contact.moment contacts := by
  rw [backoffsEndBy_iff]
  constructor
  · intro h
    refine ⟨?_, fun rejection hmem rejectedAt hrejects ↦ ?_⟩
    · rintro later rejection earlier rejectedAt rfl hrejects other hother
      exact h (contact :: later) rejection earlier rejectedAt rfl hrejects other
        (List.mem_cons_of_mem _ hother)
    · obtain ⟨later, earlier, rfl⟩ := List.append_of_mem hmem
      exact h (contact :: later) rejection earlier rejectedAt rfl hrejects contact
        List.mem_cons_self
  · rintro ⟨hisolated, hended⟩ later rejection earlier rejectedAt hsplit hrejects other hother
    cases later with
    | nil => cases hother
    | cons first later =>
      obtain ⟨rfl, rfl⟩ := List.cons.inj hsplit
      rcases List.mem_cons.1 hother with rfl | hother
      · exact hended rejection (List.mem_append_right _ List.mem_cons_self) rejectedAt hrejects
      · exact hisolated later rejection earlier rejectedAt rfl hrejects other hother

theorem backoffsEndBy_queries {now moment : Instant} {queries contacts : List Contact}
    (hqueries : ∀ query ∈ queries, query.IsQueryAt now) :
    BackoffsEndBy limits moment (queries ++ contacts) ↔ BackoffsEndBy limits moment contacts := by
  refine List.forall_mem_append.trans (and_iff_right fun query hmem backoffEnd hend ↦ ?_)
  rw [(hqueries query hmem).backoffEnd?_eq] at hend
  cases hend

theorem isolated_queries {now : Instant} {queries contacts : List Contact}
    (hqueries : ∀ query ∈ queries, query.IsQueryAt now)
    (hended : ∀ query ∈ queries, BackoffsEndBy limits now contacts)
    (h : Isolated limits contacts) : Isolated limits (queries ++ contacts) := by
  induction queries with
  | nil => exact h
  | cons query queries ih =>
    obtain ⟨hquery, hrest⟩ := List.forall_mem_cons.1 hqueries
    obtain ⟨hended, hended'⟩ := List.forall_mem_cons.1 hended
    rw [List.cons_append, isolated_cons, hquery.moment_eq]
    exact ⟨ih hrest hended', (backoffsEndBy_queries hrest).2 hended⟩

/-- Between two journals of a target, the first contact is one that finds out about it. -/
def AsksAt (now : Instant) (before after : List Contact) : Prop :=
  ∃ later first, after = later ++ first :: before ∧ first.IsAttemptAt now

theorem AsksAt.append {now : Instant} {before after : List Contact} (h : AsksAt now before after)
    (more : List Contact) : AsksAt now before (more ++ after) := by
  obtain ⟨later, first, rfl, hfirst⟩ := h
  exact ⟨more ++ later, first, (List.append_assoc _ _ _).symm, hfirst⟩

theorem AsksAt.of_cons {now now' : Instant} {contact : Contact} {before after : List Contact}
    (h : AsksAt now' (contact :: before) after) (hcontact : contact.IsAttemptAt now) :
    AsksAt now before after := by
  obtain ⟨later, first, rfl, -⟩ := h
  exact ⟨later ++ [first], contact, by simp, hcontact⟩

end Contact

open Contact

namespace Connection

variable (limits) in
/-- What the health of a target says of its journal. -/
structure Guarded (now : Instant) (c : Connection (Journaled σ)) : Prop where
  isolated : Isolated limits c.contacts
  honest : ∀ moment, now ≤ moment →
    (c.health.isValidAt moment = true ↔ BackoffsEndBy limits moment c.contacts)

variable (limits) in
/-- Nothing keeps the database of a target from being contacted. -/
structure Clear (now : Instant) (c : Connection (Journaled σ)) : Prop where
  free : c.health.invalidUntil = none
  isolated : Isolated limits c.contacts
  ended : BackoffsEndBy limits now c.contacts

theorem Guarded.mono {now now' : Instant} {c : Connection (Journaled σ)}
    (h : c.Guarded limits now) (hle : now ≤ now') : c.Guarded limits now' :=
  ⟨h.isolated, fun moment hmoment ↦ h.honest moment (Nat.le_trans hle hmoment)⟩

/-- Only the end of the backoff and the journal count. -/
theorem Guarded.of_eq {now : Instant} {c c' : Connection (Journaled σ)} (h : c.Guarded limits now)
    (huntil : c'.health.invalidUntil = c.health.invalidUntil)
    (hcontacts : c'.contacts = c.contacts) : c'.Guarded limits now := by
  refine ⟨hcontacts ▸ h.isolated, fun moment hmoment ↦ ?_⟩
  rw [HealthState.isValidAt_iff, huntil, hcontacts, ← HealthState.isValidAt_iff]
  exact h.honest moment hmoment

theorem Guarded.clear {now : Instant} {c : Connection (Journaled σ)} (h : c.Guarded limits now)
    (hfree : c.health.invalidUntil = none) : c.Clear limits now := by
  have hvalid : c.health.isValidAt now = true := by
    rw [HealthState.isValidAt_iff, hfree]
    exact nofun
  exact ⟨hfree, h.isolated, (h.honest now (Nat.le_refl now)).1 hvalid⟩

theorem Clear.mono {now now' : Instant} {c : Connection (Journaled σ)} (h : c.Clear limits now)
    (hle : now ≤ now') : c.Clear limits now' := ⟨h.free, h.isolated, h.ended.mono hle⟩

/-- One more contact, whose backoff the health has learned of. -/
theorem Clear.guarded {now now' : Instant} {c c' : Connection (Journaled σ)} {contact : Contact}
    (h : c.Clear limits now) (hmoment : contact.moment = now) (hle : now ≤ now')
    (hcontacts : c'.contacts = contact :: c.contacts)
    (huntil : c'.health.invalidUntil = contact.backoffEnd? limits) : c'.Guarded limits now' := by
  refine ⟨?_, fun moment hlater ↦ ?_⟩
  · rw [hcontacts, isolated_cons, hmoment]
    exact ⟨h.isolated, h.ended⟩
  · rw [HealthState.isValidAt_iff, huntil, hcontacts, backoffsEndBy_cons_iff]
    exact (and_iff_left (h.ended.mono (Nat.le_trans hle hlater))).symm

/-- What comes of sending queries at some moment, each to a session that may be handed out. -/
structure Queried (now : Instant) (c : Connection (Journaled σ)) (now' : Instant)
    (c' : Connection (Journaled σ)) : Prop where
  target : c'.target = c.target
  health : c'.health = c.health
  le : now ≤ now'
  contacts : ∃ queries, c'.contacts = queries ++ c.contacts ∧
    ∀ query ∈ queries, query.IsQueryAt now ∧ c.health.isValidAt now = true

theorem Queried.refl (now : Instant) (c : Connection (Journaled σ)) : Queried now c now c :=
  ⟨rfl, rfl, Nat.le_refl now, [], rfl, nofun⟩

theorem Guarded.queried {now now' : Instant} {c c' : Connection (Journaled σ)}
    (h : c.Guarded limits now) (hqueried : Queried now c now' c') : c'.Guarded limits now' := by
  obtain ⟨queries, hcontacts, hqueries⟩ := hqueried.contacts
  have hsent : ∀ query ∈ queries, query.IsQueryAt now := fun query hmem ↦ (hqueries query hmem).1
  refine ⟨?_, fun moment hlater ↦ ?_⟩
  · rw [hcontacts]
    exact isolated_queries hsent
      (fun query hmem ↦ (h.honest now (Nat.le_refl now)).1 (hqueries query hmem).2) h.isolated
  · rw [hqueried.health, hcontacts, backoffsEndBy_queries hsent]
    exact h.honest moment (Nat.le_trans hqueried.le hlater)

variable (limits) in
/-- What comes of contacting a database with some journal. -/
structure Attempted (now : Instant) (contacts : List Contact) (now' : Instant)
    (c : Connection (Journaled σ)) : Prop where
  guarded : c.Guarded limits now'
  le : now ≤ now'
  asks : AsksAt now contacts c.contacts

/-- The contacts after the first one may begin later. -/
theorem Attempted.of_cons {now now₁ now₂ : Instant} {contact : Contact} {contacts : List Contact}
    {c : Connection (Journaled σ)} (h : Attempted limits now₁ (contact :: contacts) now₂ c)
    (hcontact : contact.IsAttemptAt now) (hle : now ≤ now₁) :
    Attempted limits now contacts now₂ c :=
  ⟨h.guarded, Nat.le_trans hle h.le, h.asks.of_cons hcontact⟩

/-- Queries follow. -/
theorem Attempted.queried {now now₁ now₂ : Instant} {contacts : List Contact}
    {c₁ c₂ : Connection (Journaled σ)} (h : Attempted limits now contacts now₁ c₁)
    (hqueried : Queried now₁ c₁ now₂ c₂) : Attempted limits now contacts now₂ c₂ := by
  obtain ⟨queries, hcontacts, -⟩ := hqueried.contacts
  refine ⟨h.guarded.queried hqueried, Nat.le_trans h.le hqueried.le, ?_⟩
  rw [hcontacts]
  exact h.asks.append queries

/-! ## What an answer does to the health -/

theorem invalidUntil_fail {c : Connection (Journaled σ)} (h : c.health.invalidUntil = none)
    (now : Instant) (e : DbError) :
    (c.fail limits now e).connection.health.invalidUntil = backoffAfter? limits now e := by
  rw [fail, backoffAfter?]
  split
  · rfl
  · exact h

/-- A contact that is the last one for now, and succeeds. -/
theorem Clear.attempted_succeed {now now' : Instant} {c c' : Connection (Journaled σ)}
    {contact : Contact} (h : c.Clear limits now) (hcontact : contact.IsAttemptAt now)
    (hle : now ≤ now') (hhealth : c'.health = c.health)
    (hcontacts : c'.contacts = contact :: c.contacts)
    (hbackoff : contact.backoffEnd? limits = none) :
    Attempted limits now c.contacts now' (c'.succeed now').connection := by
  have huntil : (c'.succeed now').connection.health.invalidUntil = contact.backoffEnd? limits := by
    rw [succeed, hhealth, h.free, hbackoff]
  exact ⟨h.guarded hcontact.moment_eq hle hcontacts huntil, hle, [], contact, hcontacts, hcontact⟩

/-- A contact that is the last one for now, and fails. -/
theorem Clear.attempted_fail {now now' : Instant} {c c' : Connection (Journaled σ)} {e : DbError}
    {contact : Contact} (h : c.Clear limits now) (hcontact : contact.IsAttemptAt now)
    (hle : now ≤ now') (hhealth : c'.health = c.health)
    (hcontacts : c'.contacts = contact :: c.contacts)
    (hbackoff : contact.backoffEnd? limits = backoffAfter? limits now' e) :
    Attempted limits now c.contacts now' (c'.fail limits now' e).connection := by
  have hfree : c'.health.invalidUntil = none := by rw [hhealth, h.free]
  have huntil := (invalidUntil_fail hfree now' e).trans hbackoff.symm
  have hjournal : (c'.fail limits now' e).connection.contacts = contact :: c.contacts :=
    (contacts_fail now' c' e).trans hcontacts
  exact ⟨h.guarded hcontact.moment_eq hle hjournal huntil, hle, [], contact, hjournal, hcontact⟩

/-! ## Checks -/

/-- Nothing is sent without a session. -/
theorem ping_of_unavailable {c : Connection σ} {reason : String}
    (h : c.session = .unavailable reason) (server : Clocked σ) (limits : ConnectionLimits)
    (now : Instant) : c.ping server limits now = ⟨.error (.closed reason), c, now⟩ := by
  rcases c with ⟨target, session, health, database⟩
  obtain rfl : session = .unavailable reason := h
  simp only [ping, Session.ping, Reply.within_atOnce, Reply.elapsed_atOnce]
  rfl

theorem ping_of_live {c : Connection (Journaled σ)} {generation : Nat}
    (h : c.session = .live generation) (server : Clocked σ) (limits : ConnectionLimits)
    (now : Instant) : ∃ reply database, c.ping server.journaled limits now =
      ⟨reply.within limits.pingTimeout,
        { c with database := ⟨database, .pinged now generation reply :: c.contacts⟩ },
        now.after (reply.elapsed limits.pingTimeout)⟩ := by
  rw [ping, h]
  exact ⟨_, _, rfl⟩

theorem attempted_probeOnce {now : Instant} {c : Connection (Journaled σ)} {generation : Nat}
    (h : c.Clear limits now) (hlive : c.session = .live generation) :
    Attempted limits now c.contacts (c.probeOnce server.journaled limits now).now
      (c.probeOnce server.journaled limits now).connection := by
  obtain ⟨reply, database, hping⟩ := ping_of_live hlive server limits now
  rw [probeOnce, hping]
  have hle := le_after now (reply.elapsed limits.pingTimeout)
  cases hreply : reply.within limits.pingTimeout with
  | ok u => exact h.attempted_succeed (.pinged _ _) hle rfl rfl (backoffOf?_of_ok hreply)
  | error e =>
    dsimp only
    rw [now_fail]
    exact h.attempted_fail (.pinged _ _) hle rfl rfl (backoffOf?_of_error hreply)

theorem attempted_rebuildThen {next : Instant → Connection (Journaled σ) →
    Settled (Journaled σ) Health}
    (hnext : ∀ now (c : Connection (Journaled σ)) generation, c.Clear limits now →
      c.session = .live generation →
      Attempted limits now c.contacts (next now c).now (next now c).connection) {now : Instant}
    {c : Connection (Journaled σ)} (h : c.Clear limits now) :
    Attempted limits now c.contacts (c.rebuildThen server.journaled limits next now).now
      (c.rebuildThen server.journaled limits next now).connection := by
  rw [rebuildThen, reconnect]
  rcases hserver : (server now).connect c.database.database with ⟨result, database⟩
  cases result with
  | ok generation =>
    rw [Clocked.connect_journaled_of_ok hserver]
    have hopened : Guarded limits now (⟨c.target, .live generation, c.health,
        ⟨database, .opened now generation :: c.contacts⟩⟩ : Connection (Journaled σ)) :=
      h.guarded rfl (Nat.le_refl now) rfl h.free
    exact (hnext now _ generation (hopened.clear h.free) rfl).of_cons (.opened generation)
      (Nat.le_refl now)
  | error e =>
    rw [Clocked.connect_journaled_of_error hserver]
    dsimp only
    rw [now_fail]
    exact h.attempted_fail (.refused _) (Nat.le_refl now) rfl rfl rfl

theorem attempted_probe {now : Instant} {c : Connection (Journaled σ)} (h : c.Clear limits now) :
    Attempted limits now c.contacts (c.probe server.journaled limits now).now
      (c.probe server.journaled limits now).connection := by
  cases hsession : c.session with
  | unavailable reason =>
    -- Nothing is sent, so the first contact is the attempt at a session.
    rw [probe, ping_of_unavailable hsession]
    exact attempted_rebuildThen (fun _ _ _ ↦ attempted_probeOnce) h
  | live generation =>
    obtain ⟨reply, database, hping⟩ := ping_of_live hsession server limits now
    rw [probe, hping]
    have hle := le_after now (reply.elapsed limits.pingTimeout)
    cases hreply : reply.within limits.pingTimeout with
    | ok u => exact h.attempted_succeed (.pinged _ _) hle rfl rfl (backoffOf?_of_ok hreply)
    | error e =>
      dsimp only
      by_cases hclosed : e.isClosed = true
      · -- A closed session is no rejection, so a new one is made at once.
        have hbackoff : (pinged now generation reply).backoffEnd? limits = none := by
          rw [backoffEnd?, backoffOf?_of_error hreply, backoffAfter?, if_neg]
          rw [DbError.isInvalidCredentials_of_isClosed hclosed]
          decide
        have hguarded : Guarded limits (now.after (reply.elapsed limits.pingTimeout))
            { c with database := ⟨database, pinged now generation reply :: c.contacts⟩ } :=
          h.guarded rfl hle rfl (h.free.trans hbackoff.symm)
        rw [if_pos hclosed]
        exact (attempted_rebuildThen (fun _ _ _ ↦ attempted_probeOnce)
          (hguarded.clear h.free)).of_cons (.pinged generation reply) hle
      · rw [if_neg hclosed, now_fail]
        exact h.attempted_fail (.pinged _ _) hle rfl rfl (backoffOf?_of_error hreply)

/-- A check outside of all backoffs contacts the database. -/
theorem attempted_check {now : Instant} {c : Connection (Journaled σ)} (h : c.Guarded limits now)
    (hended : BackoffsEndBy limits now c.contacts) :
    Attempted limits now c.contacts (c.check server.journaled limits now).now
      (c.check server.journaled limits now).connection := by
  have hvalid := HealthState.isValidAt_iff.1 ((h.honest now (Nat.le_refl now)).2 hended)
  have hclear : c.withoutBackoff.Clear limits now := ⟨rfl, h.isolated, hended⟩
  cases huntil : c.health.invalidUntil with
  | none =>
    rw [check_of_free server.journaled limits huntil]
    exact attempted_probe hclear
  | some moment =>
    rw [check_of_over server.journaled limits huntil (hvalid moment huntil)]
    exact attempted_rebuildThen (fun _ _ _ hclear _ ↦ attempted_probe hclear) hclear

/-- A check inside a backoff contacts nothing. -/
theorem check_of_backoff {now : Instant} {c : Connection (Journaled σ)} (h : c.Guarded limits now)
    (hbackoff : ¬ BackoffsEndBy limits now c.contacts) :
    c.check server.journaled limits now =
      ⟨.invalid, { c with health := { c.health with up := false } }, now⟩ := by
  rw [← h.honest now (Nat.le_refl now)] at hbackoff
  rw [check, if_neg hbackoff]

/-- No session is handed out inside a backoff. -/
theorem acquire_of_backoff {now : Instant} {c : Connection (Journaled σ)}
    (h : c.Guarded limits now) (hbackoff : ¬ BackoffsEndBy limits now c.contacts) :
    c.acquire now = .error (.targetUnavailable c.target.name) := by
  rw [← h.honest now (Nat.le_refl now)] at hbackoff
  rw [acquire, if_neg hbackoff]

variable (limits) in
/-- What an operation that begins with a check makes of a connection. -/
structure Visited (now : Instant) (c : Connection (Journaled σ)) (now' : Instant)
    (c' : Connection (Journaled σ)) : Prop where
  target : c'.target = c.target
  guarded : c'.Guarded limits now'
  le : now ≤ now'
  spared : ¬ BackoffsEndBy limits now c.contacts → c'.contacts = c.contacts
  asked : BackoffsEndBy limits now c.contacts → AsksAt now c.contacts c'.contacts

theorem Visited.mono {now now₁ now₂ : Instant} {c c' : Connection (Journaled σ)}
    (h : Visited limits now c now₁ c') (hle : now₁ ≤ now₂) : Visited limits now c now₂ c' :=
  ⟨h.target, h.guarded.mono hle, Nat.le_trans h.le hle, h.spared, h.asked⟩

/-- An operation that sends nothing but queries after its check. -/
theorem visited_of_queried {now now' : Instant} {c c' : Connection (Journaled σ)}
    (h : c.Guarded limits now)
    (hqueried : Queried (c.check server.journaled limits now).now
      (c.check server.journaled limits now).connection now' c') : Visited limits now c now' c' := by
  have htarget := hqueried.target.trans (c.target_check server.journaled limits now)
  by_cases hended : BackoffsEndBy limits now c.contacts
  · have hattempted := (attempted_check h hended).queried hqueried
    exact ⟨htarget, hattempted.guarded, hattempted.le, fun hnot ↦ absurd hended hnot,
      fun _ ↦ hattempted.asks⟩
  · -- The check leaves the backoff as it is, so no session is handed out and no query is sent.
    rw [check_of_backoff h hended] at hqueried
    have hguarded : Guarded limits now { c with health := { c.health with up := false } } :=
      h.of_eq rfl rfl
    obtain ⟨queries, hcontacts, hqueries⟩ := hqueried.contacts
    have hnone : queries = [] := List.eq_nil_iff_forall_not_mem.2 fun query hmem ↦
      hended ((hguarded.honest now (Nat.le_refl now)).1 (hqueries query hmem).2)
    rw [hnone] at hcontacts
    exact ⟨htarget, hguarded.queried hqueried, hqueried.le, fun _ ↦ hcontacts,
      fun hended' ↦ absurd hended' hended⟩

variable (server) in
theorem visited_check {now : Instant} {c : Connection (Journaled σ)} (h : c.Guarded limits now) :
    Visited limits now c (c.check server.journaled limits now).now
      (c.check server.journaled limits now).connection :=
  visited_of_queried h (Queried.refl _ _)

/-! ## The beginning -/

theorem guarded_takeLeases (left : Nat) {now : Instant} {c : Connection (Journaled σ)}
    (h : c.Guarded limits now) (hfree : c.health.invalidUntil = none) :
    (c.takeLeases server.journaled limits left now).connection.Guarded limits
      (c.takeLeases server.journaled limits left now).now := by
  -- On the leases that are left: a rejection is the last contact, and any other lease begins no
  -- backoff.
  induction left generalizing now c with
  | zero => exact h.of_eq rfl rfl
  | succ left ih =>
    rcases c with ⟨target, session, health, journal⟩
    have hclear := h.clear hfree
    rw [takeLeases]
    cases session with
    | unavailable reason =>
      simp only [Session.lease, Reply.within_atOnce]
      exact (h.mono (Nat.le_trans (le_after _ _) (le_after _ _))).of_eq rfl rfl
    | live generation =>
      rcases hserver : (server (now.after limits.warmUpDelay)).lease generation
        journal.database with ⟨reply, database⟩
      simp only [Session.lease, Clocked.journaled, hserver]
      have hdelayed := hclear.mono (le_after now limits.warmUpDelay)
      have hle := le_after (now.after limits.warmUpDelay) (reply.elapsed limits.warmUpTimeout)
      have hleased : ∀ {c : Connection (Journaled σ)},
          c.contacts = .leased (now.after limits.warmUpDelay) generation reply :: journal.contacts →
          c.health.invalidUntil = backoffOf? limits limits.warmUpTimeout
            (now.after limits.warmUpDelay) reply →
          c.Guarded limits ((now.after limits.warmUpDelay).after
            (reply.elapsed limits.warmUpTimeout)) :=
        hdelayed.guarded rfl hle
      cases hreply : reply.within limits.warmUpTimeout with
      | ok u => exact ih (hleased rfl (hfree.trans (backoffOf?_of_ok hreply).symm)) hfree
      | error e =>
        dsimp only [notWarmed]
        refine hleased (contacts_fail _ _ e) ?_
        rw [invalidUntil_fail (by exact hfree), backoffOf?_of_error hreply]

variable (server limits) in
/-- A connection at some moment before anything but its start was done with it: its journal began
empty, and its pool may have been filled. -/
inductive Begun (now : Instant) : Connection (Journaled σ) → Prop
  | opened {c : Connection (Journaled σ)} {began : Instant} {target : Target} {database : σ}
      (hplain : c.plain = .start server began target database) (hempty : c.contacts = [])
      (hnow : began ≤ now) : Begun now c
  | warmed {c : Connection (Journaled σ)} {began : Instant} {target : Target} {database : σ}
      (hplain : c.plain = .start server began target database) (hempty : c.contacts = [])
      {moment : Instant} (hmoment : began ≤ moment)
      (hnow : (c.warmUp server.journaled limits moment).now ≤ now) :
      Begun now (c.warmUp server.journaled limits moment).connection

theorem guarded_of_begun {now : Instant} {c : Connection (Journaled σ)}
    (h : Begun server limits now c) : c.Guarded limits now := by
  have hbegun : ∀ {c : Connection (Journaled σ)} {began : Instant} {target : Target} {database : σ}
      (moment : Instant), c.plain = .start server began target database → c.contacts = [] →
      c.Guarded limits moment ∧ c.health.invalidUntil = none := by
    intro c began target database moment hplain hempty
    have hhealth : c.health = {} :=
      (congrArg Connection.health hplain).trans (health_start server began target database)
    have hfree : c.health.invalidUntil = none := by rw [hhealth]
    refine ⟨⟨hempty ▸ isolated_nil, fun later _ ↦ ?_⟩, hfree⟩
    rw [HealthState.isValidAt_iff, hfree, hempty]
    exact iff_of_true nofun nofun
  cases h with
  | opened hplain hempty hnow => exact (hbegun now hplain hempty).1
  | warmed hplain hempty hmoment hnow =>
    obtain ⟨hguarded, hfree⟩ := hbegun _ hplain hempty
    exact (guarded_takeLeases _ hguarded hfree).mono hnow

end Connection

end Telemetry
