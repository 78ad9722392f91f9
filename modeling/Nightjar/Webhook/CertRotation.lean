import Nightjar.Lib.Runs
import Mathlib.Data.Finset.Insert
import Mathlib.Data.Fintype.Basic
import Mathlib.Logic.Function.Basic

namespace Nightjar.Webhook

open Lib

def hour : Int := 3600 * 1000000000

def certValidityDuration : Int := 365 * 24 * hour

def certRotationThreshold : Int := 30 * 24 * hour

abbrev CA := Nat

structure Certificate where
  issuer : CA
  notAfter : Int
deriving DecidableEq, Repr

/-- The TLS secret. `tlsCrt` is `none` when the entry is empty or does not parse. -/
structure Secret where
  caCrt : CA
  tlsCrt : Option Certificate
  signed : ∀ cert ∈ tlsCrt, cert.issuer = caCrt
deriving DecidableEq

def Secret.areCertsValid (secret : Secret) (now : Int) : Bool :=
  match secret.tlsCrt with
  | none => false
  | some cert => !decide (cert.notAfter < now + certRotationThreshold)

def Secret.generate (ca : CA) (now : Int) : Secret where
  caCrt := ca
  tlsCrt := some ⟨ca, now + certValidityDuration⟩
  signed := by
    rintro _ ⟨⟩
    rfl

theorem Secret.exists_of_areCertsValid {secret : Secret} {now : Int} (h : secret.areCertsValid now = true) :
    ∃ cert, secret.tlsCrt = some cert := by
  unfold areCertsValid at h
  cases hcert : secret.tlsCrt with
  | none =>
      rw [hcert] at h
      cases h
  | some cert => exact ⟨cert, rfl⟩

structure CertManager where
  caCert : Option CA := none
  serverCert : Option Certificate := none
deriving DecidableEq, Repr

def CertManager.load (secret : Secret) : CertManager := ⟨some secret.caCrt, secret.tlsCrt⟩

structure WebhookConfiguration where
  resourceVersion : Nat
  caBundles : List (Option CA)
deriving DecidableEq, Repr

/-- What a replica is about to do. `startup` tells `startServer` from a tick of the
rotation watcher. -/
inductive Stage where
  | down
  | ensuring (startup : Bool)
  | storing (startup secretExists : Bool) (newSecret : Secret)
  | bundling
  | updating (resourceVersion : Nat) (caBundles : List (Option CA))
  | idle
deriving DecidableEq

namespace Stage

def awaitsSecret : Stage → Bool
  | down | ensuring _ => true
  | storing .. | bundling | updating .. | idle => false

def atRest : Stage → Bool
  | down | idle => true
  | ensuring _ | storing .. | bundling | updating .. => false

/-- An error in `EnsureCertificates` ends the process at startup and the tick later;
one in `UpdateWebhookCABundle` is only logged. -/
def failed : Stage → Option Stage
  | ensuring startup | storing startup _ _ => some (if startup then down else idle)
  | bundling | updating .. => some idle
  | down | idle => none

end Stage

structure Replica where
  stage : Stage := .down
  manager : CertManager := {}
deriving DecidableEq

/-- The replicas with what they share. `ticked` are those that have ticked since
certificates were last stored. -/
structure Deployment (ι : Type) where
  now : Int
  secret : Option Secret
  config : WebhookConfiguration
  nextCA : CA
  replicas : ι → Replica := fun _ => {}
  ticked : Finset ι := ∅

inductive CertStep (ι : Type) where
  | start (i : ι)
  | ensure (i : ι)
  | store (i : ι)
  | getConfig (i : ι)
  | updateConfig (i : ι)
  | tick (i : ι)
  | fail (i : ι)
  | stop (i : ι)
  | advance (d : Nat)
deriving DecidableEq

namespace Deployment

variable {ι : Type} [DecidableEq ι]

def put (d : Deployment ι) (i : ι) (r : Replica) : Deployment ι :=
  { d with replicas := Function.update d.replicas i r }

def needsRotation (d : Deployment ι) : Bool := !d.secret.any (·.areCertsValid d.now)

/-- `ensureSelfSignedCerts` up to the point where it uses or writes the secret. -/
def ensureSelfSignedCerts (d : Deployment ι) (i : ι) (startup : Bool) : Deployment ι :=
  match d.secret.filter (·.areCertsValid d.now) with
  | some secret => d.put i ⟨.bundling, .load secret⟩
  | none => { d with nextCA := d.nextCA + 1 }.put i
      ⟨.storing startup d.secret.isSome (.generate d.nextCA d.now), (d.replicas i).manager⟩

/-- `UpdateWebhookCABundle` up to the point where it writes the configuration. -/
def updateWebhookCABundle (config : WebhookConfiguration) (manager : CertManager) : Stage :=
  match manager.caCert with
  | none => .idle
  | some ca =>
      if config.caBundles.any (fun b => decide (b ≠ some ca)) then
        .updating config.resourceVersion (config.caBundles.map (fun b => if b ≠ some ca then some ca else b))
      else .idle

def next (d : Deployment ι) : CertStep ι → Option (Deployment ι)
  | .start i =>
      match (d.replicas i).stage with
      | .down => some (d.put i ⟨.ensuring true, {}⟩)
      | _ => none
  | .ensure i =>
      match (d.replicas i).stage with
      | .ensuring startup => some (d.ensureSelfSignedCerts i startup)
      | _ => none
  | .store i =>
      match (d.replicas i).stage with
      | .storing _ secretExists newSecret =>
          -- `Create` fails when there is a secret, `Update` when there is none
          if d.secret.isSome = secretExists then
            some ({ d with secret := some newSecret, ticked := ∅ }.put i ⟨.bundling, .load newSecret⟩)
          else none
      | _ => none
  | .getConfig i =>
      match (d.replicas i).stage with
      | .bundling => some (d.put i ⟨updateWebhookCABundle d.config (d.replicas i).manager, (d.replicas i).manager⟩)
      | _ => none
  | .updateConfig i =>
      match (d.replicas i).stage with
      | .updating resourceVersion bundles =>
          -- `Update` fails when the configuration was updated in between
          if resourceVersion = d.config.resourceVersion then
            some ({ d with config := ⟨resourceVersion + 1, bundles⟩ }.put i ⟨.idle, (d.replicas i).manager⟩)
          else none
      | _ => none
  | .tick i =>
      match (d.replicas i).stage with
      | .idle => some ({ d with ticked := insert i d.ticked }.put i
          ⟨if d.needsRotation then .ensuring false else .idle, (d.replicas i).manager⟩)
      | _ => none
  | .fail i => (d.replicas i).stage.failed.map (fun stage => d.put i ⟨stage, (d.replicas i).manager⟩)
  | .stop i => some (d.put i {})
  | .advance t => some { d with now := d.now + t }

def Fresh (d : Deployment ι) : Prop := d.replicas = (fun _ => {}) ∧ d.ticked = ∅

def runs (ι : Type) [DecidableEq ι] : System (Deployment ι) (CertStep ι) := .ofStep Fresh next

def Healthy (_ : Deployment ι) : CertStep ι → Prop
  | .fail _ => False
  | _ => True

/-- Certificates are stored only when every other replica will read the secret before
it uses certificates again. -/
def Exclusive (d : Deployment ι) : CertStep ι → Prop
  | .store i => ∀ j, j ≠ i → (d.replicas j).stage.awaitsSecret = true
  | _ => True

def Quiescent (d : Deployment ι) : Prop := ∀ i, (d.replicas i).stage.atRest = true

def Ticked (d : Deployment ι) : Prop := ∀ i, (d.replicas i).stage = .idle → i ∈ d.ticked

def Trusted (d : Deployment ι) : Prop :=
  ∀ i, (d.replicas i).stage = .idle → ∃ cert, (d.replicas i).manager.serverCert = some cert ∧
    ∀ b ∈ d.config.caBundles, b = some cert.issuer

inductive Step (d : Deployment ι) : CertStep ι → Deployment ι → Prop
  | start (i) (hstage : (d.replicas i).stage = .down) : Step d (.start i) (d.put i ⟨.ensuring true, {}⟩)
  | reuse (i startup) (hstage : (d.replicas i).stage = .ensuring startup) (secret) (hsecret : d.secret = some secret)
      (hvalid : secret.areCertsValid d.now = true) : Step d (.ensure i) (d.put i ⟨.bundling, .load secret⟩)
  | generate (i startup) (hstage : (d.replicas i).stage = .ensuring startup) : Step d (.ensure i)
      ({ d with nextCA := d.nextCA + 1 }.put i
        ⟨.storing startup d.secret.isSome (.generate d.nextCA d.now), (d.replicas i).manager⟩)
  | store (i startup secretExists newSecret) (hstage : (d.replicas i).stage = .storing startup secretExists newSecret) :
      Step d (.store i) ({ d with secret := some newSecret, ticked := ∅ }.put i ⟨.bundling, .load newSecret⟩)
  | getConfig (i) (hstage : (d.replicas i).stage = .bundling) : Step d (.getConfig i)
      (d.put i ⟨updateWebhookCABundle d.config (d.replicas i).manager, (d.replicas i).manager⟩)
  | updateConfig (i bundles) (hstage : (d.replicas i).stage = .updating d.config.resourceVersion bundles) :
      Step d (.updateConfig i)
        ({ d with config := ⟨d.config.resourceVersion + 1, bundles⟩ }.put i ⟨.idle, (d.replicas i).manager⟩)
  | tick (i) (hstage : (d.replicas i).stage = .idle) : Step d (.tick i) ({ d with ticked := insert i d.ticked }.put i
      ⟨if d.needsRotation then .ensuring false else .idle, (d.replicas i).manager⟩)
  | fail (i stage) : Step d (.fail i) (d.put i ⟨stage, (d.replicas i).manager⟩)
  | stop (i) : Step d (.stop i) (d.put i {})
  | advance (t) : Step d (.advance t) { d with now := d.now + t }

variable {d d' : Deployment ι} {i : ι} {r : Replica}

theorem step_of_next {l : CertStep ι} (h : d.next l = some d') : Step d l d' := by
  cases l with
  | start i | getConfig i | tick i =>
      rw [next] at h
      split at h
      · cases h
        constructor
        assumption
      · cases h
  | ensure i =>
      rw [next] at h
      split at h
      · rename_i startup hstage
        cases h
        unfold ensureSelfSignedCerts
        split
        · rename_i secret hvalid
          obtain ⟨hsecret, hvalid⟩ := Option.filter_eq_some_iff.mp hvalid
          exact .reuse i startup hstage secret hsecret hvalid
        · exact .generate i startup hstage
      · cases h
  | store i =>
      rw [next] at h
      split at h
      · split at h
        · cases h
          exact .store i _ _ _ ‹_›
        · cases h
      · cases h
  | updateConfig i =>
      rw [next] at h
      split at h
      · split at h
        · rename_i hversion
          subst hversion
          cases h
          exact .updateConfig i _ ‹_›
        · cases h
      · cases h
  | fail i =>
      rw [next, Option.map_eq_some_iff] at h
      obtain ⟨stage, -, rfl⟩ := h
      exact .fail i stage
  | stop i =>
      cases h
      exact .stop i
  | advance t =>
      cases h
      exact .advance t

def Loaded (secret : Option Secret) (manager : CertManager) : Prop :=
  ∃ sec cert, secret = some sec ∧ manager = .load sec ∧ sec.tlsCrt = some cert

def Synced (secret : Option Secret) (config : WebhookConfiguration) (manager : CertManager) : Stage → Prop
  | .down | .ensuring _ => True
  | .storing _ _ newSecret => ∃ cert, newSecret.tlsCrt = some cert
  | .bundling => Loaded secret manager
  | .updating _ bundles => Loaded secret manager ∧ ∀ b ∈ bundles, b = manager.caCert
  | .idle => Loaded secret manager ∧ ∀ b ∈ config.caBundles, b = manager.caCert

theorem synced_of_awaitsSecret {secret : Option Secret} {config : WebhookConfiguration} {manager : CertManager}
    {stage : Stage} (h : stage.awaitsSecret = true) : Synced secret config manager stage := by
  cases stage with
  | down | ensuring => trivial
  | storing | bundling | updating | idle => cases h

theorem synced_updateWebhookCABundle {secret : Option Secret} {config : WebhookConfiguration} {manager : CertManager}
    (h : Loaded secret manager) : Synced secret config manager (updateWebhookCABundle config manager) := by
  obtain ⟨sec, cert, hsecret, rfl, hcert⟩ := h
  unfold updateWebhookCABundle
  dsimp only [CertManager.load]
  split
  · refine ⟨⟨sec, cert, hsecret, rfl, hcert⟩, fun b hb => ?_⟩
    obtain ⟨b', -, rfl⟩ := List.mem_map.mp hb
    split
    · rfl
    · rename_i heq
      exact not_not.mp heq
  · rename_i hsame
    refine ⟨⟨sec, cert, hsecret, rfl, hcert⟩, fun b hb => ?_⟩
    by_contra hne
    exact hsame (List.any_eq_true.mpr ⟨b, hb, decide_eq_true hne⟩)

def AllSynced (d : Deployment ι) : Prop :=
  ∀ i, Synced d.secret d.config (d.replicas i).manager (d.replicas i).stage

theorem allSynced_put (hothers : ∀ j, j ≠ i → Synced d.secret d.config (d.replicas j).manager (d.replicas j).stage)
    (hr : Synced d.secret d.config r.manager r.stage) : (d.put i r).AllSynced := by
  intro j
  unfold put
  dsimp only
  by_cases hj : j = i
  · subst hj
    rw [Function.update_self]
    exact hr
  · rw [Function.update_of_ne hj]
    exact hothers j hj

theorem AllSynced.step {l : CertStep ι} (h : d.AllSynced) (hhealthy : d.Healthy l) (hexclusive : d.Exclusive l)
    (hstep : Step d l d') : d'.AllSynced := by
  cases hstep with
  | start i hstage => exact allSynced_put (fun j _ => h j) trivial
  | reuse i startup hstage secret hsecret hvalid =>
      obtain ⟨cert, hcert⟩ := Secret.exists_of_areCertsValid hvalid
      exact allSynced_put (fun j _ => h j) ⟨secret, cert, hsecret, rfl, hcert⟩
  | generate i startup hstage => exact allSynced_put (fun j _ => h j) ⟨_, rfl⟩
  | store i startup secretExists newSecret hstage =>
      have hnew := h i
      rw [hstage] at hnew
      obtain ⟨cert, hcert⟩ := hnew
      exact allSynced_put (fun j hj => synced_of_awaitsSecret (hexclusive j hj)) ⟨newSecret, cert, rfl, rfl, hcert⟩
  | getConfig i hstage =>
      have hloaded := h i
      rw [hstage] at hloaded
      exact allSynced_put (fun j _ => h j) (synced_updateWebhookCABundle hloaded)
  | updateConfig i bundles hstage =>
      have hbundles := h i
      rw [hstage] at hbundles
      obtain ⟨⟨sec, cert, hsecret, hmanager, hcert⟩, hca⟩ := hbundles
      refine allSynced_put (fun j _ => ?_) ⟨⟨sec, cert, hsecret, hmanager, hcert⟩, hca⟩
      have hj := h j
      dsimp only
      generalize (d.replicas j).stage = stage at hj
      cases stage with
      | down | ensuring | storing | bundling | updating => exact hj
      | idle =>
          obtain ⟨⟨sec', cert', hsecret', hmanager', hcert'⟩, -⟩ := hj
          refine ⟨⟨sec', cert', hsecret', hmanager', hcert'⟩, fun b hb => ?_⟩
          cases hsecret.symm.trans hsecret'
          rw [hca b hb, hmanager, hmanager']
  | tick i hstage =>
      have hidle := h i
      rw [hstage] at hidle
      refine allSynced_put (fun j _ => h j) ?_
      dsimp only
      split
      · trivial
      · exact hidle
  | fail i stage => exact hhealthy.elim
  | stop i => exact allSynced_put (fun j _ => h j) trivial
  | advance t => exact h

omit [DecidableEq ι] in
theorem AllSynced.trusted (h : d.AllSynced) : d.Trusted := by
  intro i hidle
  have hi := h i
  rw [hidle] at hi
  obtain ⟨⟨sec, cert, -, hmanager, hcert⟩, hca⟩ := hi
  refine ⟨cert, by rw [hmanager]; exact hcert, fun b hb => ?_⟩
  rw [hca b hb, hmanager, sec.signed cert hcert]
  rfl

/-- As long as certificates are stored only while every other replica is yet to read
the secret, all replicas that are up are trusted whenever they are at rest. -/
theorem trusted_of_exclusive (h : (runs ι).Reaches (fun d l => d.Healthy l ∧ d.Exclusive l) d) : d.Trusted := by
  refine AllSynced.trusted (h.invariant ?_ ?_)
  · rintro d ⟨hdown, -⟩ i
    rw [hdown]
    trivial
  · intro d l d' hd hg hstep
    exact hd.step hg.1 hg.2 (step_of_next hstep)

section TwoReplicas

def install : Deployment (Fin 2) where
  now := 0
  secret := none
  config := ⟨0, [none]⟩
  nextCA := 0

instance (d : Deployment (Fin 2)) : DecidablePred d.Exclusive
  | .store i => inferInstanceAs (Decidable (∀ j, j ≠ i → (d.replicas j).stage.awaitsSecret = true))
  | .start _ | .ensure _ | .getConfig _ | .updateConfig _ | .tick _ | .fail _ | .stop _ | .advance _ => isTrue trivial

instance (d : Deployment (Fin 2)) : DecidablePred d.Healthy
  | .fail _ => isFalse id
  | .start _ | .ensure _ | .store _ | .getConfig _ | .updateConfig _ | .tick _ | .stop _ | .advance _ => isTrue trivial

def startups : List (CertStep (Fin 2)) :=
  [.start 0, .ensure 0, .store 0, .getConfig 0, .updateConfig 0, .start 1, .ensure 1, .getConfig 1]

def installed : Deployment (Fin 2) :=
  (System.exec next (fun d l => decide (d.Healthy l ∧ d.Exclusive l)) install startups).get (by decide)

theorem trusted_of_exclusive_installed :
    (runs (Fin 2)).Reaches (fun d l => d.Healthy l ∧ d.Exclusive l) installed ∧
      (installed.replicas 0).stage = .idle ∧ (installed.replicas 1).stage = .idle ∧ installed.Trusted := by
  have hreach : (runs (Fin 2)).Reaches (fun d l => d.Healthy l ∧ d.Exclusive l) installed :=
    .exec (fun _ _ => of_decide_eq_true) (.init ⟨rfl, rfl⟩) (Option.some_get _).symm
  exact ⟨hreach, by decide, by decide, trusted_of_exclusive hreach⟩

def rotation : List (CertStep (Fin 2)) :=
  [.advance (336 * 24 * 3600 * 1000000000), .tick 0, .ensure 0, .store 0, .getConfig 0, .updateConfig 0, .tick 0,
    .tick 1]

def rotated : Deployment (Fin 2) :=
  (System.exec next (fun d l => decide (d.Healthy l)) install (startups ++ rotation)).get (by decide)

theorem rotation_leaves_replica_untrusted :
    (runs (Fin 2)).Reaches Healthy rotated ∧ rotated.Quiescent ∧ rotated.Ticked ∧ ¬ rotated.Trusted := by
  refine ⟨.exec (fun _ _ => of_decide_eq_true) (.init ⟨rfl, rfl⟩) (Option.some_get _).symm, ?_, ?_, ?_⟩
  · unfold Quiescent
    decide
  · unfold Ticked
    decide
  · intro htrusted
    obtain ⟨cert, hcert, hbundles⟩ := htrusted 1 (by decide)
    have hserver : (rotated.replicas 1).manager.serverCert = some ⟨0, certValidityDuration⟩ := by decide
    have hissuer := hbundles (some 1) (by decide)
    rw [hserver] at hcert
    cases hcert
    cases hissuer

end TwoReplicas

end Deployment

end Nightjar.Webhook
