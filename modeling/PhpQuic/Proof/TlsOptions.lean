/-
**TLS options: what is in force after a successful configuration.**

`php_quic_configure_ctx` runs against `tlsContext`, which keeps what each setting of one `SSL_CTX`
was made from. OpenSSL asks the passphrase callback for at most `size` bytes.

* `configureCtx_settings`: on success the context is `tlsSettings`, which is computed from the
  options array alone.
* `option_honoured_iff`: a given and consulted option is in force with exactly its bytes, when the
  configuration succeeds, exactly if its slot is usable as it is (`Usable`): a plain string with no
  NUL byte, and no longer than OpenSSL's buffer if it is the passphrase. All other values count as
  absent instead of being refused; a PHP reference is only ever right by accident, for a `local_pk`
  that names the file `local_cert` names.
-/

import PhpQuic.Proof.Calls
import PhpQuic.Openssl.Environment
import Mathlib.Data.List.TakeDrop

namespace PhpQuic

open Interact

/-! ### The context -/

/-- What the settings of one `SSL_CTX` were made from; `none` is OpenSSL's default. -/
structure TlsContext where
  certificate : Option Bytes
  keyFile : Option Bytes
  /-- What the passphrase callback puts into OpenSSL's buffer while the key is loaded. -/
  keyPassphrase : Option Bytes
  cafile : Option Bytes
  capath : Option Bytes
  systemTrust : Bool
  ciphersuites : Option Bytes
  groups : Option Bytes
  sigalgs : Option Bytes
  passwdUserdata : Option Bytes
  passwdCallback : Bool
  deriving DecidableEq

/-- The context of `SSL_CTX_new`. -/
def TlsContext.fresh : TlsContext :=
  ⟨none, none, none, none, none, false, none, none, none, none, false⟩

/-- The passphrase OpenSSL gets when it asks. -/
def TlsContext.passphrase (s : TlsContext) (size : Nat) : Option Bytes :=
  if s.passwdCallback then phpQuicPasswdCb size s.passwdUserdata else none

/-- The effect of one call with its answer. A call that fails changes nothing. -/
def TlsContext.update (size : Nat) (s : TlsContext) : (call : Call) → Answer call → TlsContext
  | .sslCtxSetDefaultPasswdCbUserdata _ userdata, _ => { s with passwdUserdata := userdata }
  | .sslCtxSetDefaultPasswdCb _ isInstalled, _ => { s with passwdCallback := isInstalled }
  | .sslCtxUseCertificateChainFile _ file, rc =>
    if rc ≤ 0 then s else { s with certificate := some file }
  | .sslCtxUsePrivateKeyFile _ file, rc =>
    if rc ≤ 0 then s
    else { s with keyFile := some file, keyPassphrase := s.passphrase size }
  | .sslCtxLoadVerifyLocations _ cafile capath, rc => if rc ≤ 0 then s else { s with cafile, capath }
  | .sslCtxSetDefaultVerifyPaths _, _ => { s with systemTrust := true }
  | .sslCtxSetCiphersuites _ names, rc => if rc = 0 then s else { s with ciphersuites := some names }
  | .sslCtxSet1GroupsList _ names, rc => if rc = 0 then s else { s with groups := some names }
  | .sslCtxSet1SigalgsList _ names, rc => if rc = 0 then s else { s with sigalgs := some names }
  | _, _ => s

def tlsContext (size : Nat) : Behaviour openssl TlsContext :=
  fun s call answer s' => s' = s.update size call answer

variable {size : Nat} {ctx : SslCtx} {opts : Option HashTable} {isServer : Bool}

/-! ### The settings, from the options array alone -/

/-- The context with the local identity of the options. -/
def TlsContext.withIdentity (size : Nat) (opts : Option HashTable) (s : TlsContext) : TlsContext :=
  match phpQuicOptString opts "local_cert" with
  | none => s
  | some cert =>
    { s with
      certificate := some cert
      keyFile := some ((phpQuicOptString opts "local_pk").getD cert)
      keyPassphrase := phpQuicPasswdCb size (phpQuicOptString opts "passphrase") }

/-- The context with the trusted CAs of the options. -/
def TlsContext.withTrust (opts : Option HashTable) (isServer : Bool) (s : TlsContext) : TlsContext :=
  if (phpQuicOptString opts "cafile").isSome ∨ (phpQuicOptString opts "capath").isSome then
    { s with cafile := phpQuicOptString opts "cafile", capath := phpQuicOptString opts "capath" }
  else if isServer then s
  else { s with systemTrust := true }

def TlsContext.withCiphersuites (s : TlsContext) (names : Option Bytes) : TlsContext :=
  { s with ciphersuites := names.orElse fun _ => s.ciphersuites }

def TlsContext.withGroups (s : TlsContext) (names : Option Bytes) : TlsContext :=
  { s with groups := names.orElse fun _ => s.groups }

def TlsContext.withSigalgs (s : TlsContext) (names : Option Bytes) : TlsContext :=
  { s with sigalgs := names.orElse fun _ => s.sigalgs }

/-- The context with the name lists of the options. -/
def TlsContext.withTuning (opts : Option HashTable) (s : TlsContext) : TlsContext :=
  ((s.withCiphersuites (phpQuicOptString opts "ciphersuites")).withGroups
    (phpQuicOptString opts "groups")).withSigalgs (phpQuicOptString opts "sigalgs")

/-- The context a successful configuration leaves behind. -/
def tlsSettings (size : Nat) (opts : Option HashTable) (isServer : Bool) : TlsContext :=
  let option := phpQuicOptString opts
  let verifying := verifyPeerOption opts isServer
  let trusted key := if verifying then option key else none
  { certificate := option "local_cert"
    keyFile := (option "local_cert").map fun cert => (option "local_pk").getD cert
    keyPassphrase := (option "local_cert").bind fun _ => phpQuicPasswdCb size (option "passphrase")
    cafile := trusted "cafile"
    capath := trusted "capath"
    systemTrust := verifying && !isServer && (option "cafile").isNone && (option "capath").isNone
    ciphersuites := option "ciphersuites"
    groups := option "groups"
    sigalgs := option "sigalgs"
    passwdUserdata := none
    passwdCallback := false }

/-- It is the result of the three parts, one after the other. -/
theorem tlsSettings_eq (size : Nat) (opts : Option HashTable) (isServer : Bool) :
    (if verifyPeerOption opts isServer
      then (TlsContext.fresh.withIdentity size opts).withTrust opts isServer
      else TlsContext.fresh.withIdentity size opts).withTuning opts =
      tlsSettings size opts isServer := by
  unfold TlsContext.withTuning TlsContext.withTrust TlsContext.withIdentity tlsSettings
  dsimp only
  cases phpQuicOptString opts "local_cert" <;> cases verifyPeerOption opts isServer <;>
    cases phpQuicOptString opts "cafile" <;> cases phpQuicOptString opts "capath" <;>
    cases isServer <;>
    simp [TlsContext.withSigalgs, TlsContext.withGroups, TlsContext.withCiphersuites,
      TlsContext.fresh]

/-! ### The parts of the configuration -/

/-- A part succeeds only in the given state. -/
abbrev SucceedsIn {α : Type} (expected : TlsContext) (result : ZendResult α) (s' : TlsContext) :
    Prop :=
  ∀ value, result = .ok value → s' = expected

theorem succeedsIn_error {α : Type} {expected s : TlsContext} {message : Bytes} :
    SucceedsIn (α := α) expected (.error message) s := nofun

theorem succeedsIn_ok {α : Type} {expected : TlsContext} {value : α} :
    SucceedsIn expected (.ok value) expected := fun _ _ => rfl

theorem installPassphrase_settings (passphrase : Option Bytes) {s : TlsContext}
    (unset : s.passwdUserdata = none) (quiet : s.passwdCallback = false) :
    Always (tlsContext size) (installPassphrase ctx passphrase)
      (fun _ s' => s' = { s with
        passwdUserdata := passphrase, passwdCallback := passphrase.isSome }) s := by
  cases passphrase with
  | none =>
      refine .pure ?_
      cases s
      cases unset
      cases quiet
      rfl
  | some passphrase =>
      refine always_call_bind.mpr ?_
      rintro _ _ rfl
      refine always_call.mpr ?_
      rintro _ _ rfl
      rfl

theorem dropPassphrase_settings (passphrase : Option Bytes) {s : TlsContext}
    (same : s.passwdUserdata = passphrase) (installed : s.passwdCallback = passphrase.isSome) :
    Always (tlsContext size) (dropPassphrase ctx passphrase)
      (fun _ s' => s' = { s with passwdUserdata := none, passwdCallback := false }) s := by
  cases passphrase with
  | none =>
      refine .pure ?_
      cases s
      cases same
      cases installed
      rfl
  | some passphrase =>
      refine always_call_bind.mpr ?_
      rintro _ _ rfl
      refine always_call.mpr ?_
      rintro _ _ rfl
      rfl

theorem passphrase_installed (s : TlsContext) (passphrase : Option Bytes) :
    TlsContext.passphrase { s with
      passwdUserdata := passphrase, passwdCallback := passphrase.isSome } size =
      phpQuicPasswdCb size passphrase := by
  cases passphrase <;> rfl

/-- The passphrase is on the context only while the key is loaded. -/
theorem loadIdentity_settings (isServer : Bool) {s : TlsContext} (unset : s.passwdUserdata = none)
    (quiet : s.passwdCallback = false) :
    Always (tlsContext size) (loadIdentity ctx opts isServer)
      (SucceedsIn (s.withIdentity size opts)) s := by
  unfold loadIdentity TlsContext.withIdentity
  cases phpQuicOptString opts "local_cert" with
  | none => exact .ite (fun _ => .pure succeedsIn_error) fun _ => .pure succeedsIn_ok
  | some localCert =>
      refine .bind (installPassphrase_settings _ unset quiet) ?_
      rintro _ _ rfl
      refine always_call_bind.mpr ?_
      rintro loaded _ rfl
      refine .ite (fun _ => .pure succeedsIn_error) fun certificate => ?_
      simp only [TlsContext.update, certificate, if_false]
      refine always_call_bind.mpr ?_
      rintro loaded _ rfl
      refine .ite (fun _ => .pure succeedsIn_error) fun key => ?_
      simp only [TlsContext.update, key, if_false]
      refine always_call_bind.mpr ?_
      rintro matching _ rfl
      refine .ite (fun _ => .pure succeedsIn_error) fun _ => ?_
      refine .bind (dropPassphrase_settings _ rfl rfl) ?_
      rintro _ _ rfl
      refine .pure fun _ _ => ?_
      rw [← passphrase_installed { s with certificate := some localCert }]
      cases s
      cases unset
      cases quiet
      rfl

theorem loadTrust_settings (isServer : Bool) (s : TlsContext) :
    Always (tlsContext size) (loadTrust ctx opts isServer)
      (SucceedsIn (s.withTrust opts isServer)) s := by
  unfold loadTrust TlsContext.withTrust
  refine .ite (fun given => ?_) fun absent => ?_
  · rw [if_pos given]
    refine always_call_bind.mpr ?_
    rintro loaded _ rfl
    refine .ite (fun _ => .pure succeedsIn_error) fun trusted => .pure fun _ _ => ?_
    simp only [TlsContext.update, trusted, if_false]
  · rw [if_neg absent]
    cases isServer with
    | true => exact .pure succeedsIn_ok
    | false =>
        refine always_call_bind.mpr ?_
        rintro _ _ rfl
        exact .pure succeedsIn_ok

theorem applyLevel_settings (value : Int) {set : Int → Quic Unit} {s : TlsContext}
    (sets : ∀ value, Always (tlsContext size) (set value) (fun _ s' => s' = s) s) :
    Always (tlsContext size) (applyLevel value set) (fun _ s' => s' = s) s :=
  .ite (fun _ => sets _) fun _ => .pure rfl

theorem configureVerification_settings (verifyDepth : Int) (s : TlsContext) :
    Always (tlsContext size) (configureVerification ctx opts isServer verifyDepth)
      (SucceedsIn (if verifyPeerOption opts isServer then s.withTrust opts isServer else s)) s := by
  unfold configureVerification
  refine .ite (fun verifying => ?_) fun trusting => ?_
  · rw [if_pos verifying]
    refine always_call_bind.mpr ?_
    rintro _ _ rfl
    refine always_call_bind.mpr ?_
    rintro _ _ rfl
    refine .bind_ok (loadTrust_settings isServer _) (fun _ _ => .pure succeedsIn_error) fun _ => ?_
    refine .bind (applyLevel_settings verifyDepth fun _ => ?_) ?_
    · refine always_call.mpr ?_
      rintro _ _ rfl
      rfl
    · rintro _ _ rfl
      exact .pure succeedsIn_ok
  · rw [if_neg trusting]
    refine always_call_bind.mpr ?_
    rintro _ _ rfl
    exact .pure succeedsIn_ok

/-- One name list: in force when it is given, untouched when it is not. -/
theorem applyNames_settings (key : String) {set : Bytes → Quic Int} {s : TlsContext}
    (applied : TlsContext → Option Bytes → TlsContext) (untouched : ∀ s, applied s none = s)
    (sets : ∀ names, Always (tlsContext size) (set names)
      (fun rc s' => rc ≠ 0 → s' = applied s (some names)) s) :
    Always (tlsContext size) (applyNames opts key set)
      (SucceedsIn (applied s (phpQuicOptString opts key))) s := by
  unfold applyNames
  cases phpQuicOptString opts key with
  | none => exact .pure fun _ _ => (untouched s).symm
  | some names =>
      refine .bind (sets names) fun rc s₁ settled => ?_
      exact .ite (fun _ => .pure succeedsIn_error) fun worked => .pure fun _ _ => settled worked

theorem configureTuning_settings (securityLevel : Int) (s : TlsContext) :
    Always (tlsContext size) (configureTuning ctx opts securityLevel)
      (SucceedsIn (s.withTuning opts)) s := by
  refine .bind_ok (applyNames_settings "ciphersuites" TlsContext.withCiphersuites (fun _ => rfl)
    fun names => always_call.mpr ?_) (fun _ _ => .pure succeedsIn_error) fun _ => ?_
  · rintro rc _ rfl worked
    exact if_neg worked
  refine .bind_ok (applyNames_settings "groups" TlsContext.withGroups (fun _ => rfl)
    fun names => always_call.mpr ?_) (fun _ _ => .pure succeedsIn_error) fun _ => ?_
  · rintro rc _ rfl worked
    exact if_neg worked
  refine .bind_ok (applyNames_settings "sigalgs" TlsContext.withSigalgs (fun _ => rfl)
    fun names => always_call.mpr ?_) (fun _ _ => .pure succeedsIn_error) fun _ => ?_
  · rintro rc _ rfl worked
    exact if_neg worked
  refine .bind (applyLevel_settings securityLevel fun _ => ?_) ?_
  · refine always_call.mpr ?_
    rintro _ _ rfl
    rfl
  · rintro _ _ rfl
    exact .pure succeedsIn_ok

theorem optLong_settings (key : String) (default : Int) (s : TlsContext) :
    Always (tlsContext size) (optLong opts key default) (fun _ s' => s' = s) s := by
  unfold optLong
  split
  · exact .pure rfl
  · refine always_call.mpr ?_
    rintro _ _ rfl
    rfl

/-- **On success the context holds the settings of the options array.** -/
theorem configureCtx_settings (size : Nat) (ctx : SslCtx) (opts : Option HashTable)
    (isServer : Bool) :
    Always (tlsContext size) (phpQuicConfigureCtx ctx opts isServer)
      (SucceedsIn (tlsSettings size opts isServer)) TlsContext.fresh := by
  refine .bind (optLong_settings "security_level" (-1) _) ?_
  rintro securityLevel _ rfl
  refine .bind (optLong_settings "verify_depth" (-1) _) ?_
  rintro verifyDepth _ rfl
  refine .bind_ok (loadIdentity_settings isServer rfl rfl) (fun _ _ => .pure succeedsIn_error)
    fun _ => ?_
  refine .bind_ok (configureVerification_settings verifyDepth _)
    (fun _ _ => .pure succeedsIn_error) fun _ => ?_
  refine .bind_ok (configureTuning_settings securityLevel _) (fun _ _ => .pure succeedsIn_error)
    fun _ => ?_
  exact .pure fun _ _ => tlsSettings_eq size opts isServer

/-! ### One option at a time -/

/-- The string options of a TLS configuration. -/
inductive TlsKey where
  | cafile
  | capath
  | localCert
  | localPk
  | passphrase
  | ciphersuites
  | groups
  | sigalgs
  | peerName
  deriving DecidableEq

namespace TlsKey

/-- The key in the options array. -/
def name : TlsKey → String
  | cafile => "cafile"
  | capath => "capath"
  | localCert => "local_cert"
  | localPk => "local_pk"
  | passphrase => "passphrase"
  | ciphersuites => "ciphersuites"
  | groups => "groups"
  | sigalgs => "sigalgs"
  | peerName => "peer_name"

/-- The rest of the configuration looks at the option: the trusted CAs only matter to a verifying
side, the key file and its passphrase only next to a certificate. -/
def Consulted (opts : Option HashTable) (isServer : Bool) : TlsKey → Prop
  | cafile | capath => verifyPeerOption opts isServer = true
  | localPk | passphrase => (phpQuicOptString opts "local_cert").isSome
  | _ => True

/-- The bytes the setting in force was made from. -/
def inForce (s : TlsContext) (setup : PhpQuicTlsSetup) : TlsKey → Option Bytes
  | cafile => s.cafile
  | capath => s.capath
  | localCert => s.certificate
  | localPk => s.keyFile
  | passphrase => s.keyPassphrase
  | ciphersuites => s.ciphersuites
  | groups => s.groups
  | sigalgs => s.sigalgs
  | peerName => setup.peerName

/-- A given option is honoured: the setting was made from exactly the bytes of its value, a PHP
reference followed. -/
def Honoured (s : TlsContext) (setup : PhpQuicTlsSetup) (key : TlsKey) (slot : Zval) : Prop :=
  ∃ bytes, zvalDeref slot = .string bytes ∧ key.inForce s setup = some bytes

/-- **The slots the code uses as they are given**: plain strings without NUL bytes, a passphrase
that fits OpenSSL's buffer, and a reference to the name of the file a missing `local_pk` stands
for. -/
def Usable (size : Nat) (opts : Option HashTable) (slot : Zval) : TlsKey → Prop
  | passphrase => ∃ bytes, slot = .string bytes ∧ NulFree bytes ∧ bytes.length ≤ size
  | localPk => (∃ bytes, slot = .string bytes ∧ NulFree bytes) ∨
      ∃ target cert, slot = .reference target ∧ zvalDeref target = .string cert ∧
        phpQuicOptString opts "local_cert" = some cert
  | _ => ∃ bytes, slot = .string bytes ∧ NulFree bytes

end TlsKey

theorem borrowString_eq_some_iff {slot : Zval} {bytes : Bytes} :
    borrowString slot = some bytes ↔ slot = .string bytes ∧ NulFree bytes := by
  cases slot with
  | string value =>
      simp only [borrowString, strlen_eq_length_iff, Option.ite_none_right_eq_some,
        Option.some.injEq, Zval.string.injEq]
      constructor
      · rintro ⟨free, rfl⟩
        rw [cString_eq_self free]
        exact ⟨rfl, free⟩
      · rintro ⟨rfl, free⟩
        exact ⟨free, cString_eq_self free⟩
  | _ => simp [borrowString]

theorem phpQuicOptString_of_given {key : String} {slot : Zval}
    (given : findOption opts key = some slot) : phpQuicOptString opts key = borrowString slot := by
  rw [phpQuicOptString, given, Option.bind_some]

/-- For a setting made from the borrowed string itself. -/
theorem honoured_borrow_iff {slot : Zval} :
    (∃ bytes, zvalDeref slot = .string bytes ∧ borrowString slot = some bytes) ↔
      ∃ bytes, slot = .string bytes ∧ NulFree bytes := by
  simp only [borrowString_eq_some_iff]
  constructor
  · rintro ⟨bytes, _, plain⟩
    exact ⟨bytes, plain⟩
  · rintro ⟨bytes, rfl, free⟩
    exact ⟨bytes, rfl, rfl, free⟩

/-- For the passphrase, cut to OpenSSL's buffer. -/
theorem honoured_passphrase_iff {slot : Zval} :
    (∃ bytes, zvalDeref slot = .string bytes ∧
        phpQuicPasswdCb size (borrowString slot) = some bytes) ↔
      ∃ bytes, slot = .string bytes ∧ NulFree bytes ∧ bytes.length ≤ size := by
  simp only [phpQuicPasswdCb, Option.map_eq_some_iff, borrowString_eq_some_iff]
  constructor
  · rintro ⟨bytes, same, _, ⟨rfl, free⟩, cut⟩
    cases same
    rw [cString_eq_self free, List.take_eq_self_iff] at cut
    exact ⟨_, rfl, free, cut⟩
  · rintro ⟨bytes, rfl, free, fits⟩
    refine ⟨bytes, rfl, bytes, ⟨rfl, free⟩, ?_⟩
    rw [cString_eq_self free, List.take_of_length_le fits]

/-- For the key file, next to a certificate whose path has no NUL byte. -/
theorem honoured_keyFile_iff {slot : Zval} {cert : Bytes} (free : NulFree cert) :
    (∃ bytes, zvalDeref slot = .string bytes ∧ some ((borrowString slot).getD cert) = some bytes) ↔
      (∃ bytes, slot = .string bytes ∧ NulFree bytes) ∨
        ∃ target, slot = .reference target ∧ zvalDeref target = .string cert := by
  cases slot with
  | string value =>
      by_cases plain : NulFree value
      · have borrowed := borrowString_eq_some_iff.mpr ⟨rfl, plain⟩
        simp [borrowed, zvalDeref, plain]
      · have dropped : borrowString (.string value) = none := by
          refine Option.eq_none_iff_forall_ne_some.mpr fun bytes borrowed => plain ?_
          obtain ⟨same, nulFree⟩ := borrowString_eq_some_iff.mp borrowed
          cases same
          exact nulFree
        simp only [dropped, zvalDeref, Option.getD_none, Zval.string.injEq, Option.some.injEq,
          exists_eq_left', plain, exists_false, reduceCtorEq, false_and, or_self, iff_false]
        rintro rfl
        exact plain free
  | reference target => simp [borrowString, zvalDeref]
  | _ => simp [borrowString, zvalDeref]

/-- Most settings in force are the borrowed string itself. -/
theorem inForce_eq {key : TlsKey} (consulted : key.Consulted opts isServer)
    (notKey : key ≠ .localPk) (notPassphrase : key ≠ .passphrase) :
    key.inForce (tlsSettings size opts isServer) (tlsSetup opts isServer) =
      phpQuicOptString opts key.name := by
  cases key with
  | cafile => exact if_pos consulted
  | capath => exact if_pos consulted
  | localPk => exact absurd rfl notKey
  | passphrase => exact absurd rfl notPassphrase
  | _ => rfl

theorem inForce_localPk {cert : Bytes}
    (identified : phpQuicOptString opts "local_cert" = some cert) :
    TlsKey.localPk.inForce (tlsSettings size opts isServer) (tlsSetup opts isServer) =
      some ((phpQuicOptString opts "local_pk").getD cert) := by
  simp only [TlsKey.inForce, tlsSettings, identified, Option.map_some]

theorem inForce_passphrase {cert : Bytes}
    (identified : phpQuicOptString opts "local_cert" = some cert) :
    TlsKey.passphrase.inForce (tlsSettings size opts isServer) (tlsSetup opts isServer) =
      phpQuicPasswdCb size (phpQuicOptString opts "passphrase") := by
  simp only [TlsKey.inForce, tlsSettings, identified, Option.bind_some]

/-- A borrowed string has no NUL byte. -/
theorem nulFree_of_phpQuicOptString {key : String} {bytes : Bytes}
    (borrowed : phpQuicOptString opts key = some bytes) : NulFree bytes := by
  obtain ⟨slot, _, found⟩ := Option.bind_eq_some_iff.mp borrowed
  exact (borrowString_eq_some_iff.mp found).2

/-- **A given and consulted option is honoured exactly when its slot is usable as it is.** -/
theorem option_honoured_iff {setup : PhpQuicTlsSetup} {s' : TlsContext} {key : TlsKey}
    {slot : Zval} (given : findOption opts key.name = some slot)
    (consulted : key.Consulted opts isServer)
    (run : Run (tlsContext size) (phpQuicConfigureCtx ctx opts isServer) .fresh (.ok setup) s') :
    key.Honoured s' setup slot ↔ key.Usable size opts slot := by
  obtain rfl := configureCtx_settings size ctx opts isServer _ _ run setup rfl
  obtain rfl := (phpQuicConfigureCtx_setup ctx opts isServer).of_run run setup rfl
  have borrowed := phpQuicOptString_of_given given
  unfold TlsKey.Honoured
  cases key with
  | localPk =>
      obtain ⟨cert, identified⟩ := Option.isSome_iff_exists.mp consulted
      rw [inForce_localPk identified, show phpQuicOptString opts "local_pk" = _ from borrowed,
        honoured_keyFile_iff (nulFree_of_phpQuicOptString identified)]
      simp only [TlsKey.Usable, identified, Option.some.injEq, exists_eq_right_right']
  | passphrase =>
      obtain ⟨cert, identified⟩ := Option.isSome_iff_exists.mp consulted
      rw [inForce_passphrase identified, show phpQuicOptString opts "passphrase" = _ from borrowed]
      exact honoured_passphrase_iff
  | _ =>
      rw [inForce_eq consulted nofun nofun, borrowed]
      exact honoured_borrow_iff

/-! ### One option that is used, and two that are dropped -/

/-- The environment in which every call works. -/
def tlsHandler (size : Nat) : Handler openssl TlsContext := fun s call =>
  (succeeding call, s.update size call (succeeding call))

/-- A client's options with one slot for `cafile`. -/
def cafileOptions (slot : Zval) : Option HashTable := some [(.name (text "cafile"), slot)]

/-- The client's configuration with these options, in that environment. -/
def cafileConfigured (options : Option HashTable) : ZendResult PhpQuicTlsSetup × TlsContext :=
  exec (tlsHandler 1024) (phpQuicConfigureCtx 1 options false) .fresh

theorem cafileConfigured_run (options : Option HashTable) :
    Run (tlsContext 1024) (phpQuicConfigureCtx 1 options false) .fresh
      (cafileConfigured options).1 (cafileConfigured options).2 :=
  run_exec (fun _ _ => rfl) _ _

/-- `'cafile' => '/ca.pem'` is in force. -/
theorem option_honoured_example :
    TlsKey.cafile.Honoured (cafileConfigured (cafileOptions (.string (text "/ca.pem")))).2
      (tlsSetup (cafileOptions (.string (text "/ca.pem"))) false) (.string (text "/ca.pem")) := by
  have given : findOption (cafileOptions (.string (text "/ca.pem"))) TlsKey.cafile.name =
      some (.string (text "/ca.pem")) := rfl
  have consulted : TlsKey.cafile.Consulted (cafileOptions (.string (text "/ca.pem"))) false := rfl
  exact (option_honoured_iff given consulted (cafileConfigured_run _)).mpr ⟨_, rfl, by decide⟩

/-- The `cafile` in this slot is dropped: the configuration succeeds, and its result is the one for
options without the key. -/
def CafileDropped (slot : Zval) : Prop :=
  ∃ setup s', TlsKey.cafile.Consulted (cafileOptions slot) false ∧
    Run (tlsContext 1024) (phpQuicConfigureCtx 1 (cafileOptions slot) false) .fresh
      (.ok setup) s' ∧
    ¬ TlsKey.cafile.Honoured s' setup slot ∧
    Run (tlsContext 1024) (phpQuicConfigureCtx 1 (some []) false) .fresh (.ok setup) s'

/-- **A path with a NUL byte and a reference to a path are dropped.** -/
theorem option_dropped :
    CafileDropped (.string (text "/ca.pem" ++ [0, 120])) ∧
      CafileDropped (.reference (.string (text "/ca.pem"))) := by
  constructor
  · refine ⟨_, _, rfl, cafileConfigured_run _, ?_, cafileConfigured_run _⟩
    rintro ⟨_, _, absent⟩
    cases absent
  · refine ⟨_, _, rfl, cafileConfigured_run _, ?_, cafileConfigured_run _⟩
    rintro ⟨_, _, absent⟩
    cases absent

end PhpQuic
