import Nightjar.Webhook.Certificates

namespace Nightjar.Webhook.Certificates

open Lib

def defaultCertManagerConfig (ns : String) : CertManagerConfig where
  mode := .selfSigned
  ns := ns

def updateWebhookCABundle (m : CertManager) (c : Cluster) (o : Outcomes) : Cluster × Except String Unit :=
  if m.caCert = .empty then (c, .error "no CA certificate available")
  else
    match o.getConfig, c.caBundles with
    | some err, _ => (c, .error ("failed to get webhook configuration: " ++ err))
    | none, none => (c, .ok ())
    | none, some caBundles =>
        if caBundles.any (fun b => decide (b ≠ m.caCert)) then
          let updated := { c with caBundles := some (caBundles.map (fun b => if b ≠ m.caCert then m.caCert else b)) }
          match o.updateConfig with
          | .done => (updated, .ok ())
          | .lost err => (updated, .error ("failed to update webhook configuration: " ++ err))
          | .failed err => (c, .error ("failed to update webhook configuration: " ++ err))
        else (c, .ok ())

def Cluster.rotationDue (c : Cluster) : Bool := !c.secret.any (·.areCertsValid c.now)

def needsRotation (c : Cluster) (o : Outcomes) : Except String Bool :=
  match o.checkSecret with
  | some err => .error ("failed to get secret: " ++ err)
  | none => .ok c.rotationDue

def goesThrough (m : CertManager) (o : Outcomes) : Bool :=
  decide (m.caCert ≠ .empty) && o.getConfig.isNone &&
    match o.updateConfig with
    | .done | .lost _ => true
    | .failed _ => false

/-- The only replica, with its manager while it is running. `delivered` is no part of the
program: an update of the CA bundle has gone through since the secret was last written. -/
structure Replica where
  cluster : Cluster
  manager : Option CertManager := none
  delivered : Bool

inductive Event where
  | startup (o : Outcomes)
  | tick (o : Outcomes)
  | stop
  | advance (t : Nat)
deriving DecidableEq

namespace Replica

/-- What follows on `EnsureCertificates`: `UpdateWebhookCABundle`, whose error is only logged. -/
def conclude (r : Replica) (ensured : Ensured) (o : Outcomes) : Replica × Except String Unit :=
  let delivered := r.delivered && decide (ensured.cluster.secret = r.cluster.secret)
  match ensured.result with
  | .error err => (⟨ensured.cluster, some ensured.manager, delivered⟩, .error err)
  | .ok () => (⟨(updateWebhookCABundle ensured.manager ensured.cluster o).1, some ensured.manager,
      delivered || goesThrough ensured.manager o⟩, .ok ())

def refresh (ns : String) (r : Replica) (m : CertManager) (o : Outcomes) : Replica × Except String Unit :=
  r.conclude (ensureCertificates (defaultCertManagerConfig ns) m r.cluster o) o

def startup (ns : String) (r : Replica) (o : Outcomes) : Replica :=
  match r.refresh ns {} o with
  | (r', .ok ()) => r'
  | (r', .error _) => { r' with manager := none }

/-- A tick of the rotation watcher. -/
def tick (ns : String) (r : Replica) (m : CertManager) (o : Outcomes) : Replica :=
  match needsRotation r.cluster o with
  | .ok true => (r.refresh ns m o).1
  | .ok false | .error _ => r

def next (ns : String) (r : Replica) : Event → Option Replica
  | .startup o => if r.manager.isNone then some (r.startup ns o) else none
  | .tick o => r.manager.map (fun m => r.tick ns m o)
  | .stop => some { r with manager := none }
  | .advance t => some { r with cluster := { r.cluster with now := r.cluster.now + t } }

end Replica

/-- Every webhook has the stored `ca.crt` as its CA bundle. -/
def Cluster.Healed (c : Cluster) : Prop :=
  ∃ secret caBundles, c.secret = some secret ∧ c.caBundles = some caBundles ∧ ∀ b ∈ caBundles, b = secret.caCrt

/-- A key that is yet to be generated is in no certificate. -/
def Pem.Known (nextKey : KeyPair) : Pem → Prop
  | .cert c => c.key < nextKey
  | .empty | .other _ | .key _ => True

structure Cluster.Known (c : Cluster) : Prop where
  secret : ∀ secret, c.secret = some secret → secret.caCrt.Known c.nextKey
  caBundles : ∀ caBundles, c.caBundles = some caBundles → ∀ b ∈ caBundles, b.Known c.nextKey

namespace Replica

/-- Before the first startup. There is a webhook configuration; it and a secret may be
left from earlier. -/
structure Fresh (r : Replica) : Prop where
  stopped : r.manager = none
  configured : r.cluster.caBundles.isSome
  known : r.cluster.Known
  delivered : r.delivered = true ↔ r.cluster.Healed

def runs (ns : String) : System Replica Event := .ofStep Fresh (next ns)

end Replica

theorem Pem.Known.mono {k k' : KeyPair} (hle : k ≤ k') {b : Pem} (h : b.Known k) : b.Known k' := by
  cases b with
  | cert c => exact lt_of_lt_of_le h hle
  | empty | other | key => trivial

theorem not_known_generate (k : KeyPair) (now : Int) : ¬ (SecretData.generate k now).caCrt.Known k := lt_irrefl k

/-- The bundles are right exactly when the update has gone through since the secret was
last written, or there is no webhook to update. -/
structure Tracked (c : Cluster) (delivered : Bool) : Prop where
  configured : c.caBundles.isSome
  known : c.Known
  healed : c.Healed ↔ delivered = true ∨ c.caBundles = some [] ∧ c.secret.isSome

section Tracked
variable {c : Cluster} {delivered : Bool} {m : CertManager} {o : Outcomes}

theorem Tracked.generated (h : Tracked c delivered) : Tracked c.generated delivered where
  configured := h.configured
  known := {
    secret := fun secret hsecret => (h.known.secret secret hsecret).mono (Nat.le_add_right ..)
    caBundles := fun caBundles hbundles b hb => (h.known.caBundles caBundles hbundles b hb).mono (Nat.le_add_right ..) }
  healed := h.healed

theorem Tracked.secret_ne (h : Tracked c delivered) : c.stored.secret ≠ c.secret := by
  intro heq
  exact not_known_generate c.nextKey c.now (h.known.secret _ heq.symm)

theorem Tracked.stored (h : Tracked c delivered) : Tracked c.stored false where
  configured := h.configured
  known := {
    secret := by
      rintro _ ⟨⟩
      exact Nat.lt_add_of_pos_right Nat.two_pos
    caBundles := h.generated.known.caBundles }
  healed := by
    constructor
    · rintro ⟨_, caBundles, ⟨⟩, hbundles, hall⟩
      refine .inr ⟨?_, rfl⟩
      cases caBundles with
      | nil => exact hbundles
      | cons b bs =>
          have hknown := h.known.caBundles (b :: bs) hbundles b List.mem_cons_self
          rw [hall b List.mem_cons_self] at hknown
          exact absurd hknown (not_known_generate _ _)
    · rintro (hfalse | ⟨hbundles, -⟩)
      · cases hfalse
      · exact ⟨_, [], rfl, hbundles, nofun⟩

theorem updateWebhookCABundle_of_goesThrough (h : goesThrough m o = true) {caBundles : List Pem}
    (hbundles : c.caBundles = some caBundles) :
    (updateWebhookCABundle m c o).1 = { c with caBundles := some (caBundles.map (fun _ => m.caCert)) } := by
  rw [goesThrough, Bool.and_eq_true, Bool.and_eq_true, decide_eq_true_eq, Option.isNone_iff_eq_none] at h
  obtain ⟨⟨hca, hget⟩, hupdate⟩ := h
  have hmap : caBundles.map (fun b => if b ≠ m.caCert then m.caCert else b) = caBundles.map (fun _ => m.caCert) := by
    refine List.map_congr_left fun b _ => ?_
    split
    · rfl
    · exact not_not.mp ‹_›
  rw [updateWebhookCABundle, if_neg hca, hget, hbundles]
  dsimp only
  split
  · rw [hmap]
    cases houtcome : o.updateConfig with
    | done | lost => rfl
    | failed =>
        rw [houtcome] at hupdate
        cases hupdate
  · rename_i hsame
    have hall : caBundles.map (fun _ => m.caCert) = caBundles := by
      refine (List.map_congr_left fun b hb => ?_).trans (List.map_id' caBundles)
      by_contra hne
      exact hsame (List.any_eq_true.mpr ⟨b, hb, decide_eq_true (Ne.symm hne)⟩)
    rw [hall, ← hbundles]

theorem updateWebhookCABundle_of_not (h : goesThrough m o = false) : (updateWebhookCABundle m c o).1 = c := by
  rw [updateWebhookCABundle]
  split
  · rfl
  rename_i hca
  split
  · rfl
  · rfl
  rename_i hget _
  split
  · cases houtcome : o.updateConfig with
    | done | lost => simp [goesThrough, hca, hget, houtcome] at h
    | failed => rfl
  · rfl

theorem Tracked.update (h : Tracked c delivered) {secret : SecretData} (hsecret : c.secret = some secret)
    (hm : m.caCert = secret.caCrt) :
    Tracked (updateWebhookCABundle m c o).1 (delivered || goesThrough m o) := by
  cases hthrough : goesThrough m o with
  | false =>
      rw [updateWebhookCABundle_of_not hthrough, Bool.or_false]
      exact h
  | true =>
      obtain ⟨caBundles, hbundles⟩ := Option.isSome_iff_exists.mp h.configured
      rw [updateWebhookCABundle_of_goesThrough hthrough hbundles, Bool.or_true]
      refine ⟨rfl, ⟨h.known.secret, ?_⟩, ?_⟩
      · rintro _ ⟨⟩ b hb
        obtain ⟨_, -, rfl⟩ := List.mem_map.mp hb
        rw [hm]
        exact h.known.secret secret hsecret
      · refine iff_of_true ⟨secret, _, hsecret, rfl, fun b hb => ?_⟩ (.inl rfl)
        obtain ⟨_, -, rfl⟩ := List.mem_map.mp hb
        exact hm

end Tracked

namespace Replica

variable {ns : String} {r r' : Replica} {m : CertManager} {o : Outcomes}

theorem tracked_conclude (h : Tracked r.cluster r.delivered) {e : Ensured} (he : Ensures m r.cluster e)
    (o : Outcomes) : Tracked (r.conclude e o).1.cluster (r.conclude e o).1.delivered := by
  have hsame : (r.delivered && decide (r.cluster.secret = r.cluster.secret)) = r.delivered := by
    rw [decide_eq_true rfl, Bool.and_true]
  have hnew : (r.delivered && decide (r.cluster.stored.secret = r.cluster.secret)) = false := by
    rw [decide_eq_false h.secret_ne, Bool.and_false]
  cases he with
  | failed err =>
      rw [conclude, hsame]
      exact h
  | reused secret hsecret hvalid =>
      rw [conclude, hsame]
      exact h.update hsecret rfl
  | regenerated _ he =>
      cases he with
      | failed err =>
          rw [conclude, hsame]
          exact h
      | unstored err =>
          have hsecret : r.cluster.generated.secret = r.cluster.secret := rfl
          rw [conclude, hsecret, hsame]
          exact h.generated
      | lost err =>
          rw [conclude, hnew]
          exact h.stored
      | stored =>
          rw [conclude, hnew]
          exact h.stored.update rfl rfl

theorem tracked_refresh (h : Tracked r.cluster r.delivered) (m : CertManager) (o : Outcomes) :
    Tracked (r.refresh ns m o).1.cluster (r.refresh ns m o).1.delivered :=
  tracked_conclude h (ensures m r.cluster o) o

theorem tracked_next (h : Tracked r.cluster r.delivered) {ev : Event} (hnext : r.next ns ev = some r') :
    Tracked r'.cluster r'.delivered := by
  cases ev with
  | startup o =>
      rw [next] at hnext
      split at hnext
      · cases hnext
        have hrefresh : Tracked (r.refresh ns {} o).1.cluster (r.refresh ns {} o).1.delivered := tracked_refresh h {} o
        rw [startup]
        split <;> simpa only [‹r.refresh ns {} o = _›] using hrefresh
      · cases hnext
  | tick o =>
      obtain ⟨m, -, rfl⟩ := Option.map_eq_some_iff.mp hnext
      rw [tick]
      split
      · exact tracked_refresh h m o
      · exact h
      · exact h
  | stop =>
      cases hnext
      exact h
  | advance t =>
      cases hnext
      exact ⟨h.configured, ⟨h.known.secret, h.known.caBundles⟩, h.healed⟩

theorem tracked_of_reachable (h : (runs ns).Reachable r) : Tracked r.cluster r.delivered := by
  refine h.invariant (I := fun r => Tracked r.cluster r.delivered) ?_ (fun _ _ _ hr _ hnext => tracked_next hr hnext)
  rintro r hfresh
  refine ⟨hfresh.configured, hfresh.known, ⟨fun hhealed => .inl (hfresh.delivered.mpr hhealed), ?_⟩⟩
  rintro (hdelivered | ⟨hbundles, hsecret⟩)
  · exact hfresh.delivered.mp hdelivered
  · obtain ⟨secret, hsecret⟩ := Option.isSome_iff_exists.mp hsecret
    exact ⟨secret, [], hsecret, hbundles, nofun⟩

theorem ensureCertificates_of_due {c : Cluster} (hdue : c.rotationDue = true) (m : CertManager) :
    ensureCertificates (defaultCertManagerConfig ns) m c {} =
      ⟨.load (.generate c.nextKey c.now), c.stored, .ok ()⟩ := by
  change ensureSelfSignedCerts m c {} = _
  rw [ensureSelfSignedCerts]
  cases hsecret : c.secret with
  | none => rfl
  | some secret =>
      have hinvalid : ¬ secret.areCertsValid c.now = true := by
        simpa [Cluster.rotationDue, hsecret] using hdue
      dsimp only
      rw [if_neg hinvalid]
      rfl

theorem delivered_of_due (hdue : r.cluster.rotationDue = true) (m : CertManager) :
    (r.refresh ns m {}).1.delivered = true := by
  rw [refresh, ensureCertificates_of_due hdue, conclude]
  exact Bool.or_true _

/-- A tick that meets no error leaves the right CA bundles exactly when it rotates, or
an update has gone through since the secret was last written. -/
theorem tick_heals_iff (hreach : (runs ns).Reachable r) (htick : r.next ns (.tick {}) = some r') :
    r'.cluster.Healed ↔
      r.cluster.rotationDue = true ∨ r.cluster.caBundles = some [] ∨ r.delivered = true := by
  have htracked := tracked_of_reachable hreach
  obtain ⟨m, -, rfl⟩ := Option.map_eq_some_iff.mp htick
  rw [tick, needsRotation]
  cases hdue : r.cluster.rotationDue with
  | true =>
      refine iff_of_true ?_ (.inl rfl)
      exact (tracked_refresh htracked m {}).healed.mpr (.inl (delivered_of_due hdue m))
  | false =>
      have hsecret : r.cluster.secret.isSome = true := by
        cases hsecret : r.cluster.secret with
        | none => simp [Cluster.rotationDue, hsecret] at hdue
        | some secret => rfl
      dsimp only
      rw [htracked.healed]
      simp [hsecret, or_comm]

section Install

def installed : Replica where
  cluster := ⟨0, none, some [.empty], 0⟩
  delivered := false

theorem fresh_installed : installed.Fresh := by
  refine ⟨rfl, rfl, ⟨nofun, ?_⟩, ⟨nofun, ?_⟩⟩
  · rintro _ ⟨⟩ b hb
    obtain rfl := List.mem_singleton.mp hb
    trivial
  · rintro ⟨_, _, ⟨⟩, -⟩

def after (events : List Event) (h : (System.exec (next "nightjar-system") (fun _ _ => true) installed events).isSome) :
    Replica :=
  (System.exec (next "nightjar-system") (fun _ _ => true) installed events).get h

theorem reachable_after {events : List Event}
    (h : (System.exec (next "nightjar-system") (fun _ _ => true) installed events).isSome) :
    (runs "nightjar-system").Reachable (after events h) :=
  .exec (fun _ _ _ => trivial) (.init fresh_installed) (Option.some_get h).symm

def running : Replica := after [.startup {}] rfl

theorem tick_heals_running :
    (runs "nightjar-system").Reachable running ∧ running.delivered = true ∧
      ∃ r', running.next "nightjar-system" (.tick {}) = some r' ∧ r'.cluster.Healed := by
  have hreach : (runs "nightjar-system").Reachable running := reachable_after rfl
  exact ⟨hreach, rfl, _, rfl, (tick_heals_iff hreach rfl).mpr (.inr (.inr rfl))⟩

def rotatedOnly : Replica :=
  after [.startup {}, .advance (336 * 24 * 3600 * 1000000000), .tick { updateConfig := .failed "timeout" }] rfl

theorem tick_leaves_old_bundle :
    (runs "nightjar-system").Reachable rotatedOnly ∧
      ∃ r', rotatedOnly.next "nightjar-system" (.tick {}) = some r' ∧ ¬ r'.cluster.Healed := by
  refine ⟨reachable_after rfl, _, rfl, ?_⟩
  rintro ⟨secret, caBundles, hsecret, hbundles, hall⟩
  cases hsecret
  cases hbundles
  have hca := hall _ List.mem_cons_self
  cases hca

end Install

end Replica

end Nightjar.Webhook.Certificates
