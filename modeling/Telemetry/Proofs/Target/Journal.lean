import Telemetry.Proofs.Target.Connection

/-!
# A journal of contacts

Any database can be put behind a journal, which answers as the database does and writes down what
it was asked, and when. What the exporter does with a target is then a statement about the journal
that it leaves, whatever the database answers.

The journal has the newest contact first, so what came before a contact is what it stands in front
of.
-/

namespace Telemetry

/-- One contact with a database. -/
inductive Contact where
  /-- A session was made. -/
  | opened (now : Instant) (generation : Nat)
  /-- A session was refused. -/
  | refused (now : Instant) (error : DbError)
  | pinged (now : Instant) (generation : Nat) (reply : Reply Unit)
  | leased (now : Instant) (generation : Nat) (reply : Reply Unit)
  /-- A query was sent. -/
  | fetched (now : Instant) (generation : Nat) (query : String)

/-- A database with its journal. -/
structure Journaled (σ : Type) where
  database : σ
  contacts : List Contact

variable {σ : Type}

/-- The database behind a journal. -/
def Clocked.journaled (server : Clocked σ) : Clocked (Journaled σ) := fun now ↦
  { connect := fun s ↦
      match (server now).connect s.database with
      | (.ok generation, database) =>
        (.ok generation, ⟨database, .opened now generation :: s.contacts⟩)
      | (.error e, database) => (.error e, ⟨database, .refused now e :: s.contacts⟩)
    ping := fun generation s ↦
      let (reply, database) := (server now).ping generation s.database
      (reply, ⟨database, .pinged now generation reply :: s.contacts⟩)
    fetch := fun generation query s ↦
      let (reply, database) := (server now).fetch generation query s.database
      (reply, ⟨database, .fetched now generation query :: s.contacts⟩)
    lease := fun generation s ↦
      let (reply, database) := (server now).lease generation s.database
      (reply, ⟨database, .leased now generation reply :: s.contacts⟩) }

theorem Clocked.connect_journaled_of_ok {server : Clocked σ} {now : Instant} {s : Journaled σ}
    {generation : Nat} {database : σ}
    (h : (server now).connect s.database = (.ok generation, database)) :
    (server.journaled now).connect s =
      (.ok generation, ⟨database, .opened now generation :: s.contacts⟩) := by
  rw [journaled]
  dsimp only
  rw [h]

theorem Clocked.connect_journaled_of_error {server : Clocked σ} {now : Instant} {s : Journaled σ}
    {e : DbError} {database : σ} (h : (server now).connect s.database = (.error e, database)) :
    (server.journaled now).connect s = (.error e, ⟨database, .refused now e :: s.contacts⟩) := by
  rw [journaled]
  dsimp only
  rw [h]

/-! ## What a journal leaves as it is

Nothing that is done with a connection depends on whether its database is behind a journal. -/

variable {server : Clocked σ} {limits : ConnectionLimits}

/-- A connection without the journal of its database. -/
def Connection.plain (c : Connection (Journaled σ)) : Connection σ :=
  ⟨c.target, c.session, c.health, c.database.database⟩

/-- What came of an operation, without the journal. -/
def Settled.plain {α : Type} (s : Settled (Journaled σ) α) : Settled σ α :=
  ⟨s.result, s.connection.plain, s.now⟩

namespace Connection

theorem plain_reconnect (now : Instant) (c : Connection (Journaled σ)) :
    c.plain.reconnect server now =
      ((c.reconnect server.journaled now).1, (c.reconnect server.journaled now).2.plain) := by
  rw [reconnect, reconnect, Clocked.journaled]
  dsimp only [plain]
  rcases (server now).connect c.database.database with ⟨result, database⟩
  cases result with
  | ok generation => rfl
  | error e => rfl

theorem plain_ping (now : Instant) (c : Connection (Journaled σ)) :
    c.plain.ping server limits now = (c.ping server.journaled limits now).plain := by
  rcases c with ⟨target, session, health, journal⟩
  cases session with
  | live generation => rfl
  | unavailable reason => rfl

theorem plain_fail (now : Instant) (e : DbError) (c : Connection (Journaled σ)) :
    c.plain.fail limits now e = (c.fail limits now e).plain := by
  rw [fail, fail]
  split
  · rfl
  · rfl

theorem plain_probeOnce (now : Instant) (c : Connection (Journaled σ)) :
    c.plain.probeOnce server limits now = (c.probeOnce server.journaled limits now).plain := by
  rw [probeOnce, probeOnce, plain_ping]
  generalize c.ping server.journaled limits now = pinged
  rcases pinged with ⟨result, c', now'⟩
  cases result with
  | ok u => rfl
  | error e => exact plain_fail now' e c'

theorem plain_rebuildThen {next : Instant → Connection σ → Settled σ Health}
    {next' : Instant → Connection (Journaled σ) → Settled (Journaled σ) Health}
    (hnext : ∀ now c, next now c.plain = (next' now c).plain) (now : Instant)
    (c : Connection (Journaled σ)) :
    c.plain.rebuildThen server limits next now =
      (c.rebuildThen server.journaled limits next' now).plain := by
  rw [rebuildThen, rebuildThen, plain_reconnect]
  generalize c.reconnect server.journaled now = rebuilt
  rcases rebuilt with ⟨result, c'⟩
  cases result with
  | ok u => exact hnext now c'
  | error e => exact plain_fail now e c'

theorem plain_probe (now : Instant) (c : Connection (Journaled σ)) :
    c.plain.probe server limits now = (c.probe server.journaled limits now).plain := by
  rw [probe, probe, plain_ping]
  generalize c.ping server.journaled limits now = pinged
  rcases pinged with ⟨result, c', now'⟩
  cases result with
  | ok u => rfl
  | error e =>
    simp only [Settled.plain]
    by_cases hclosed : e.isClosed = true
    · rw [if_pos hclosed, if_pos hclosed]
      exact plain_rebuildThen (fun now c ↦ plain_probeOnce now c) now' c'
    · rw [if_neg hclosed, if_neg hclosed]
      exact plain_fail now' e c'

/-- A check does with a database behind a journal what it does with the database. -/
theorem plain_check (now : Instant) (c : Connection (Journaled σ)) :
    c.plain.check server limits now = (c.check server.journaled limits now).plain := by
  cases huntil : c.health.invalidUntil with
  | none =>
    rw [check_of_free server.journaled limits huntil, check_of_free server limits huntil]
    exact plain_probe now c.withoutBackoff
  | some moment =>
    by_cases hover : moment ≤ now
    · rw [check_of_over server.journaled limits huntil hover,
        check_of_over server limits huntil hover]
      exact plain_rebuildThen (fun now c ↦ plain_probe now c) now c.withoutBackoff
    · rw [check_of_under server.journaled limits huntil hover,
        check_of_under server limits huntil hover]
      rfl

theorem plain_notWarmed (now : Instant) (e : DbError) (c : Connection (Journaled σ)) :
    c.plain.notWarmed limits now e = (c.notWarmed limits now e).plain := by
  rw [notWarmed, notWarmed, plain_fail]
  rfl

theorem plain_takeLeases (left : Nat) (now : Instant) (c : Connection (Journaled σ)) :
    c.plain.takeLeases server limits left now =
      (c.takeLeases server.journaled limits left now).plain := by
  induction left generalizing now c with
  | zero => rfl
  | succ left ih =>
    rcases c with ⟨target, session, health, journal⟩
    change takeLeases server limits (left + 1) now ⟨target, session, health, journal.database⟩ = _
    rw [takeLeases, takeLeases]
    cases session with
    | unavailable reason =>
      simp only [Session.lease, Reply.within_atOnce]
      exact plain_notWarmed _ _ ⟨target, .unavailable reason, health, journal⟩
    | live generation =>
      rcases hserver : (server (now.after limits.warmUpDelay)).lease generation
        journal.database with ⟨reply, database⟩
      simp only [Session.lease, Clocked.journaled, hserver]
      cases reply.within limits.warmUpTimeout with
      | ok u => exact ih _ ⟨target, .live generation, health, ⟨database, _⟩⟩
      | error e => exact plain_notWarmed _ e ⟨target, .live generation, health, ⟨database, _⟩⟩

/-- A warm-up does with a database behind a journal what it does with the database. -/
theorem plain_warmUp (now : Instant) (c : Connection (Journaled σ)) :
    c.plain.warmUp server limits now = (c.warmUp server.journaled limits now).plain :=
  plain_takeLeases c.target.settings.poolSize now c

end Connection

/-! ## The journal of a connection -/

namespace Connection

/-- The journal of a connection. -/
abbrev contacts (c : Connection (Journaled σ)) : List Contact := c.database.contacts

theorem le_after (now : Instant) (d : Duration) : now ≤ now.after d := Nat.le_add_right now d.nanos

theorem after_mono {now now' : Instant} (h : now ≤ now') (d : Duration) :
    now.after d ≤ now'.after d := Nat.add_le_add_right h d.nanos

theorem now_fail (now : Instant) (c : Connection (Journaled σ)) (e : DbError) :
    (c.fail limits now e).now = now := by
  rw [fail]
  split
  · rfl
  · rfl

theorem contacts_fail (now : Instant) (c : Connection (Journaled σ)) (e : DbError) :
    (c.fail limits now e).connection.contacts = c.contacts := by
  rw [fail]
  split
  · rfl
  · rfl

end Connection

/-! ## Rejections and fresh sessions -/

namespace Contact

/-- The end of the backoff that a failure at some moment begins, if it rejects credentials. -/
def backoffAfter? (limits : ConnectionLimits) (now : Instant) (e : DbError) : Option Instant :=
  if e.isInvalidCredentials then some (now.after limits.backoff) else none

/-- The end of the backoff that a reply begins, if it comes in time and rejects credentials. -/
def backoffOf? (limits : ConnectionLimits) (deadline : Duration) (now : Instant)
    (reply : Reply Unit) : Option Instant :=
  match reply.within deadline with
  | .ok _ => none
  | .error e => backoffAfter? limits (now.after (reply.elapsed deadline)) e

/-- The end of the backoff that a contact begins, if it rejects credentials. A query begins none,
whatever comes of it. -/
def backoffEnd? (limits : ConnectionLimits) : Contact → Option Instant
  | .opened .. | .fetched .. => none
  | .refused now e => backoffAfter? limits now e
  | .pinged now _ reply => backoffOf? limits limits.pingTimeout now reply
  | .leased now _ reply => backoffOf? limits limits.warmUpTimeout now reply

/-- The moment and the generation of the session that was made last. -/
def lastOpened? : List Contact → Option (Instant × Nat)
  | [] => none
  | .opened now generation :: _ => some (now, generation)
  | .refused .. :: earlier | .pinged .. :: earlier | .leased .. :: earlier
  | .fetched .. :: earlier => lastOpened? earlier

variable (limits)

/-- No backoff of these contacts goes on after a moment. -/
def BackoffsEndBy (moment : Instant) (contacts : List Contact) : Prop :=
  ∀ contact ∈ contacts, ∀ backoffEnd, contact.backoffEnd? limits = some backoffEnd →
    backoffEnd ≤ moment

/-- After every contact that rejected credentials, and not before its backoff was over, the session
of this generation was made, and none after it. -/
def IsFresh (generation : Nat) (contacts : List Contact) : Prop :=
  ∀ later rejection earlier backoffEnd, contacts = later ++ rejection :: earlier →
    rejection.backoffEnd? limits = some backoffEnd →
    ∃ now, lastOpened? later = some (now, generation) ∧ backoffEnd ≤ now

/-- Every ping behind a rejection of credentials goes to a session that was made after the backoff
of the rejection. -/
def PingsAreFresh (contacts : List Contact) : Prop :=
  ∀ later now generation reply earlier,
    contacts = later ++ .pinged now generation reply :: earlier → IsFresh limits generation earlier

variable {limits}

theorem backoffOf?_of_ok {deadline : Duration} {now : Instant} {reply : Reply Unit} {u : Unit}
    (h : reply.within deadline = .ok u) : backoffOf? limits deadline now reply = none := by
  rw [backoffOf?, h]

theorem backoffOf?_of_error {deadline : Duration} {now : Instant} {reply : Reply Unit}
    {e : DbError} (h : reply.within deadline = .error e) :
    backoffOf? limits deadline now reply =
      backoffAfter? limits (now.after (reply.elapsed deadline)) e := by
  rw [backoffOf?, h]

/-! ## One more contact -/

theorem BackoffsEndBy.mono {moment moment' : Instant} {contacts : List Contact}
    (h : BackoffsEndBy limits moment contacts) (hle : moment ≤ moment') :
    BackoffsEndBy limits moment' contacts :=
  fun contact hmem backoffEnd hend ↦ Nat.le_trans (h contact hmem backoffEnd hend) hle

theorem backoffsEndBy_cons_iff {moment : Instant} {contact : Contact} {contacts : List Contact} :
    BackoffsEndBy limits moment (contact :: contacts) ↔
      (∀ backoffEnd, contact.backoffEnd? limits = some backoffEnd → backoffEnd ≤ moment) ∧
        BackoffsEndBy limits moment contacts := List.forall_mem_cons

theorem backoffsEndBy_cons {moment : Instant} {contact : Contact} {contacts : List Contact}
    (hcontact : ∀ backoffEnd, contact.backoffEnd? limits = some backoffEnd → backoffEnd ≤ moment)
    (h : BackoffsEndBy limits moment contacts) :
    BackoffsEndBy limits moment (contact :: contacts) := backoffsEndBy_cons_iff.2 ⟨hcontact, h⟩

/-- A session made after all backoffs is fresh. -/
theorem isFresh_opened {now : Instant} {generation : Nat} {contacts : List Contact}
    (h : BackoffsEndBy limits now contacts) :
    IsFresh limits generation (.opened now generation :: contacts) := by
  intro later rejection earlier backoffEnd hsplit hend
  cases later with
  | nil =>
    -- Making a session begins no backoff.
    obtain ⟨rfl, -⟩ := List.cons.inj hsplit
    cases hend
  | cons contact later =>
    obtain ⟨rfl, rfl⟩ := List.cons.inj hsplit
    exact ⟨now, rfl, h rejection (List.mem_append_right _ List.mem_cons_self) backoffEnd hend⟩

theorem not_isFresh_of_backoff {generation : Nat} {contact : Contact} {contacts : List Contact}
    {backoffEnd : Instant} (h : contact.backoffEnd? limits = some backoffEnd) :
    ¬ IsFresh limits generation (contact :: contacts) := by
  intro hfresh
  obtain ⟨now, hopened, -⟩ := hfresh [] contact contacts backoffEnd rfl h
  cases hopened

/-- Contacts that neither make a session nor reject credentials change nothing. -/
theorem isFresh_cons {generation : Nat} {contact : Contact} {contacts : List Contact}
    (hopened : ∀ later, lastOpened? (contact :: later) = lastOpened? later)
    (hbackoff : contact.backoffEnd? limits = none) :
    IsFresh limits generation (contact :: contacts) ↔ IsFresh limits generation contacts := by
  constructor
  · rintro hfresh later rejection earlier backoffEnd rfl hend
    obtain ⟨now, hnow, hle⟩ := hfresh (contact :: later) rejection earlier backoffEnd rfl hend
    exact ⟨now, (hopened later).symm.trans hnow, hle⟩
  · intro hfresh later rejection earlier backoffEnd hsplit hend
    cases later with
    | nil =>
      obtain ⟨rfl, -⟩ := List.cons.inj hsplit
      rw [hbackoff] at hend
      cases hend
    | cons first later =>
      obtain ⟨rfl, rfl⟩ := List.cons.inj hsplit
      obtain ⟨now, hnow, hle⟩ := hfresh later rejection earlier backoffEnd rfl hend
      exact ⟨now, (hopened later).trans hnow, hle⟩

theorem pingsAreFresh_nil : PingsAreFresh limits [] := by
  intro later now generation reply earlier hsplit
  exact absurd hsplit (by simp)

theorem pingsAreFresh_cons {contact : Contact} {contacts : List Contact} :
    PingsAreFresh limits (contact :: contacts) ↔ PingsAreFresh limits contacts ∧
      ∀ now generation reply, contact = .pinged now generation reply →
        IsFresh limits generation contacts := by
  constructor
  · intro h
    refine ⟨?_, ?_⟩
    · rintro later now generation reply earlier rfl
      exact h (contact :: later) now generation reply earlier rfl
    · rintro now generation reply rfl
      exact h [] now generation reply contacts rfl
  · rintro ⟨hall, hfirst⟩ later now generation reply earlier hsplit
    cases later with
    | nil =>
      obtain ⟨hcontact, rfl⟩ := List.cons.inj hsplit
      exact hfirst now generation reply hcontact
    | cons first later =>
      obtain ⟨rfl, rfl⟩ := List.cons.inj hsplit
      exact hall later now generation reply earlier rfl

end Contact

end Telemetry
