import Nightjar.Webhook.CertRotation

namespace Nightjar.Webhook.Certificates

abbrev KeyPair := Nat

structure Cert where
  key : KeyPair
  issuer : KeyPair
  notAfter : Int
deriving DecidableEq, Repr

inductive Pem where
  | empty
  | other (bytes : Nat)
  | cert (c : Cert)
  | key (k : KeyPair)
deriving DecidableEq, Repr

/-- The data of the TLS secret. An entry that is not there reads as an empty one. -/
structure SecretData where
  caCrt : Pem
  tlsCrt : Pem
  tlsKey : Pem
deriving DecidableEq, Repr

/-- The entries are of one generation: the key is that of the certificate, and the CA has issued it. -/
def SecretData.Coherent (secret : SecretData) : Prop :=
  ∀ cert, secret.tlsCrt = .cert cert →
    secret.tlsKey = .key cert.key ∧ ∃ ca, secret.caCrt = .cert ca ∧ ca.key = cert.issuer

def SecretData.areCertsValid (secret : SecretData) (now : Int) : Bool :=
  match secret.tlsCrt with
  | .cert cert => !decide (cert.notAfter < now + certRotationThreshold)
  | .empty | .other _ | .key _ => false

def SecretData.generate (nextKey : KeyPair) (now : Int) : SecretData where
  caCrt := .cert ⟨nextKey, nextKey, now + certValidityDuration⟩
  tlsCrt := .cert ⟨nextKey + 1, nextKey, now + certValidityDuration⟩
  tlsKey := .key (nextKey + 1)

inductive CertMode where
  | selfSigned
  | certManager
  | other (text : String)
deriving DecidableEq, Repr

structure CertManagerConfig where
  mode : CertMode
  ns : String
  secretName : String := "nightjar-webhook-tls"
deriving DecidableEq, Repr

structure CertManager where
  caCert : Pem := .empty
  serverCert : Pem := .empty
  serverKey : Pem := .empty
deriving DecidableEq, Repr

namespace CertManager

def getCertificates (m : CertManager) : Pem × Pem × Pem := (m.caCert, m.serverCert, m.serverKey)

def load (secret : SecretData) : CertManager := ⟨secret.caCrt, secret.tlsCrt, secret.tlsKey⟩

/-- The three values are a certificate of the CA, one that the CA has issued, and its key. -/
def Usable (m : CertManager) : Prop :=
  ∃ ca cert, m.caCert = .cert ca ∧ m.serverCert = .cert cert ∧ m.serverKey = .key cert.key ∧ cert.issuer = ca.key

end CertManager

/-- What the certificate manager meets: the clock, the secret, and the CA bundle of each
webhook of the ValidatingWebhookConfiguration, if there is one. -/
structure Cluster where
  now : Int
  secret : Option SecretData
  caBundles : Option (List Pem)
  nextKey : KeyPair
deriving DecidableEq, Repr

def Cluster.generated (c : Cluster) : Cluster := { c with nextKey := c.nextKey + 2 }

def Cluster.stored (c : Cluster) : Cluster := { c.generated with secret := some (.generate c.nextKey c.now) }

inductive WriteOutcome where
  | done
  | lost (err : String)
  | failed (err : String)
deriving DecidableEq, Repr

/-- How the calls end, an error for those that fail. That an object is not found is not
an outcome but a matter of the cluster. -/
structure Outcomes where
  checkSecret : Option String := none
  getSecret : Option String := none
  generateCA : Option String := none
  generateServerCert : Option String := none
  writeSecret : WriteOutcome := .done
  getConfig : Option String := none
  updateConfig : WriteOutcome := .done
deriving DecidableEq, Repr

structure Ensured where
  manager : CertManager
  cluster : Cluster
  result : Except String Unit

def regenerate (m : CertManager) (c : Cluster) (o : Outcomes) (secretExists : Bool) : Ensured :=
  match o.generateCA, o.generateServerCert with
  | some err, _ => ⟨m, c, .error ("failed to generate CA: " ++ err)⟩
  | none, some err => ⟨m, c, .error ("failed to generate server certificate: " ++ err)⟩
  | none, none =>
      let failure := if secretExists then "failed to update secret: " else "failed to create secret: "
      match o.writeSecret with
      | .done => ⟨.load (.generate c.nextKey c.now), c.stored, .ok ()⟩
      | .lost err => ⟨m, c.stored, .error (failure ++ err)⟩
      | .failed err => ⟨m, c.generated, .error (failure ++ err)⟩

def ensureSelfSignedCerts (m : CertManager) (c : Cluster) (o : Outcomes) : Ensured :=
  match o.getSecret, c.secret with
  | some err, _ => ⟨m, c, .error ("failed to get secret: " ++ err)⟩
  | none, some secret =>
      if secret.areCertsValid c.now then ⟨.load secret, c, .ok ()⟩ else regenerate m c o true
  | none, none => regenerate m c o false

def ensureCertManagerCerts (config : CertManagerConfig) (m : CertManager) (c : Cluster) (o : Outcomes) : Ensured :=
  match o.getSecret, c.secret with
  | some err, _ => ⟨m, c, .error ("failed to get secret: " ++ err)⟩
  | none, none => ⟨m, c, .error ("cert-manager secret " ++ config.ns ++ "/" ++ config.secretName ++
      " not found; ensure Certificate resource is created")⟩
  | none, some secret =>
      let m := CertManager.load secret
      if m.serverCert = .empty ∨ m.serverKey = .empty
      then ⟨m, c, .error "cert-manager secret missing tls.crt or tls.key"⟩
      else ⟨m, c, .ok ()⟩

def ensureCertificates (config : CertManagerConfig) (m : CertManager) (c : Cluster) (o : Outcomes) : Ensured :=
  match config.mode with
  | .selfSigned => ensureSelfSignedCerts m c o
  | .certManager => ensureCertManagerCerts config m c o
  | .other text => ⟨m, c, .error ("unknown cert mode: " ++ text)⟩

theorem SecretData.exists_cert_of_valid {secret : SecretData} {now : Int} (h : secret.areCertsValid now = true) :
    ∃ cert, secret.tlsCrt = .cert cert := by
  rw [areCertsValid] at h
  split at h
  · exact ⟨_, ‹_›⟩
  all_goals cases h

theorem usable_generate (k : KeyPair) (now : Int) : (CertManager.load (.generate k now)).Usable :=
  ⟨_, _, rfl, rfl, rfl, rfl⟩

theorem usable_load_iff {secret : SecretData} {cert : Cert} (hcert : secret.tlsCrt = .cert cert) :
    (CertManager.load secret).Usable ↔ secret.Coherent := by
  constructor
  · rintro ⟨ca, cert', hca, hcert', hkey, hissuer⟩ cert'' hcert''
    cases hcert'.symm.trans hcert''
    exact ⟨hkey, ca, hca, hissuer.symm⟩
  · intro hcoherent
    obtain ⟨hkey, ca, hca, hissuer⟩ := hcoherent cert hcert
    exact ⟨ca, cert, hca, hcert, hkey, hissuer.symm⟩

inductive Regenerates (m : CertManager) (c : Cluster) : Ensured → Prop
  | failed (err) : Regenerates m c ⟨m, c, .error err⟩
  | unstored (err) : Regenerates m c ⟨m, c.generated, .error err⟩
  | lost (err) : Regenerates m c ⟨m, c.stored, .error err⟩
  | stored : Regenerates m c ⟨.load (.generate c.nextKey c.now), c.stored, .ok ()⟩

theorem regenerates (m : CertManager) (c : Cluster) (o : Outcomes) (secretExists : Bool) :
    Regenerates m c (regenerate m c o secretExists) := by
  rw [regenerate]
  split
  · exact .failed _
  · exact .failed _
  · cases o.writeSecret with
    | done => exact .stored
    | lost err => exact .lost _
    | failed err => exact .unstored _

theorem Regenerates.usable {m : CertManager} {c : Cluster} {e : Ensured} (h : Regenerates m c e)
    (hok : e.result = .ok ()) : e.manager.Usable := by
  cases h with
  | failed err | unstored err | lost err => cases hok
  | stored => exact usable_generate ..

inductive Ensures (m : CertManager) (c : Cluster) : Ensured → Prop
  | failed (err) : Ensures m c ⟨m, c, .error err⟩
  | reused (secret) (hsecret : c.secret = some secret) (hvalid : secret.areCertsValid c.now = true) :
      Ensures m c ⟨.load secret, c, .ok ()⟩
  | regenerated (e) (h : Regenerates m c e) : Ensures m c e

theorem ensures (m : CertManager) (c : Cluster) (o : Outcomes) : Ensures m c (ensureSelfSignedCerts m c o) := by
  rw [ensureSelfSignedCerts]
  split
  · exact .failed _
  · rename_i secret _ hsecret
    split
    · exact .reused secret hsecret ‹_›
    · exact .regenerated _ (regenerates ..)
  · exact .regenerated _ (regenerates ..)

theorem Ensures.manager_eq {m : CertManager} {c : Cluster} {e : Ensured} {err : String} (h : Ensures m c e)
    (herr : e.result = .error err) : e.manager = m := by
  cases h with
  | failed => rfl
  | reused => cases herr
  | regenerated _ h =>
      cases h with
      | failed | unstored | lost => rfl
      | stored => cases herr

/-- A successful setup in self-signed mode is usable exactly when a secret that is used
as it is found is of one generation. -/
theorem ensureCertificates_usable_iff (ns secretName : String) (m : CertManager) (c : Cluster) (o : Outcomes) :
    ((ensureCertificates ⟨.selfSigned, ns, secretName⟩ m c o).result = .ok () →
      (ensureCertificates ⟨.selfSigned, ns, secretName⟩ m c o).manager.Usable) ↔
    ∀ secret, o.getSecret = none → c.secret = some secret → secret.areCertsValid c.now = true →
      secret.Coherent := by
  change ((ensureSelfSignedCerts m c o).result = _ → (ensureSelfSignedCerts m c o).manager.Usable) ↔ _
  rw [ensureSelfSignedCerts]
  cases hget : o.getSecret with
  | some err => exact iff_of_true nofun nofun
  | none =>
      cases hsecret : c.secret with
      | none => exact iff_of_true (regenerates ..).usable nofun
      | some secret =>
          dsimp only
          split
          · rename_i hvalid
            obtain ⟨cert, hcert⟩ := SecretData.exists_cert_of_valid hvalid
            constructor
            · rintro husable _ - ⟨⟩ -
              exact (usable_load_iff hcert).mp (husable rfl)
            · intro hcoherent _
              exact (usable_load_iff hcert).mpr (hcoherent secret rfl rfl hvalid)
          · rename_i hvalid
            refine iff_of_true (regenerates ..).usable ?_
            rintro _ - ⟨⟩ hvalid'
            exact absurd hvalid' hvalid

theorem ensureCertManagerCerts_error_iff (config : CertManagerConfig) (m : CertManager) (c : Cluster) (o : Outcomes) :
    (∀ err, (ensureCertManagerCerts config m c o).result = .error err →
      (ensureCertManagerCerts config m c o).manager.getCertificates = m.getCertificates) ↔
    ¬ (o.getSecret = none ∧ ∃ secret, c.secret = some secret ∧ (secret.tlsCrt = .empty ∨ secret.tlsKey = .empty) ∧
      (secret.caCrt, secret.tlsCrt, secret.tlsKey) ≠ m.getCertificates) := by
  rw [ensureCertManagerCerts]
  cases hget : o.getSecret with
  | some err => exact iff_of_true (fun _ _ => rfl) nofun
  | none =>
      cases hsecret : c.secret with
      | none =>
          refine iff_of_true (fun _ _ => rfl) ?_
          rintro ⟨-, _, ⟨⟩, -⟩
      | some secret =>
          dsimp only
          split
          · rename_i hempty
            constructor
            · rintro hkeeps ⟨-, _, ⟨⟩, -, hne⟩
              exact hne (hkeeps _ rfl)
            · intro hsame err _
              by_contra hne
              exact hsame ⟨rfl, secret, rfl, hempty, hne⟩
          · rename_i hfilled
            refine iff_of_true nofun ?_
            rintro ⟨-, _, ⟨⟩, hempty, -⟩
            exact hfilled hempty

/-- A failed refresh leaves the certificates in memory as they are, unless in
cert-manager mode a secret without one of the TLS entries was read that differs from them. -/
theorem failed_refresh_iff (config : CertManagerConfig) (m : CertManager) (c : Cluster) (o : Outcomes) :
    (∀ err, (ensureCertificates config m c o).result = .error err →
      (ensureCertificates config m c o).manager.getCertificates = m.getCertificates) ↔
    ¬ (config.mode = .certManager ∧ o.getSecret = none ∧ ∃ secret, c.secret = some secret ∧
      (secret.tlsCrt = .empty ∨ secret.tlsKey = .empty) ∧
      (secret.caCrt, secret.tlsCrt, secret.tlsKey) ≠ m.getCertificates) := by
  rw [ensureCertificates]
  cases hmode : config.mode with
  | selfSigned => exact iff_of_true (fun _ herr => congrArg _ ((ensures m c o).manager_eq herr)) nofun
  | other text => exact iff_of_true (fun _ _ => rfl) nofun
  | certManager =>
      rw [ensureCertManagerCerts_error_iff, not_iff_not]
      exact (and_iff_right rfl).symm

section Samples

def withoutCA : SecretData where
  caCrt := .empty
  tlsCrt := .cert ⟨1, 0, certValidityDuration⟩
  tlsKey := .key 1

theorem setup_without_ca :
    let c : Cluster := ⟨0, some withoutCA, some [.empty], 2⟩
    let ensured := ensureCertificates ⟨.selfSigned, "nightjar-system", "nightjar-webhook-tls"⟩ {} c {}
    ensured.result = .ok () ∧ ensured.manager.caCert = .empty ∧ ¬ ensured.manager.Usable := by
  refine ⟨rfl, rfl, ?_⟩
  rintro ⟨ca, cert, hca, -⟩
  cases hca

theorem failed_refresh_drops_certificate :
    let serving := CertManager.load (.generate 0 0)
    let c : Cluster := ⟨0, some ⟨.empty, .empty, .empty⟩, none, 2⟩
    let ensured := ensureCertificates ⟨.certManager, "nightjar-system", "nightjar-webhook-tls"⟩ serving c {}
    serving.Usable ∧ ensured.result = .error "cert-manager secret missing tls.crt or tls.key" ∧
      ensured.manager.getCertificates = (.empty, .empty, .empty) ∧
      ensured.manager.getCertificates ≠ serving.getCertificates :=
  ⟨usable_generate 0 0, rfl, rfl, by decide⟩

end Samples

end Nightjar.Webhook.Certificates
