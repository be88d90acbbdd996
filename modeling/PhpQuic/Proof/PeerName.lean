/-
**Name verification: which name the peer is checked for.**

The constructor of a connection runs against `naming`, which keeps the name every SSL object carries
and notes it down at each `SSL_connect`; all other calls may answer anything.

* `construct_installs`: at every handshake the SSL object carries the name `php_quic_configure_ctx`
  left in `peer_name`, or the host without one (`installed` of `effectiveName`).
* `handshake_named_iff`: with name verification in force, a run that reaches the handshake carries a
  name that is not empty and is the one asked for, exactly when the `peer_name` option is usable
  (`NameUsable`). An empty name, a name that is not a plain string, and a name with a NUL byte
  are not: the first switches the check off, the others fall back to the host.
-/

import PhpQuic.Proof.Calls
import PhpQuic.Openssl.Environment
import Mathlib.Logic.Function.Basic

namespace PhpQuic

open Interact

/-! ### The name an SSL object carries -/

/-- The names of the SSL objects, and the name carried at each `SSL_connect` so far. -/
structure Naming where
  carried : Ssl → Option Bytes
  handshakes : List (Option Bytes)

/-- What `SSL_set1_host` installs: the empty name clears the list of names. -/
def installed (name : Bytes) : Option Bytes := if name = [] then none else some name

/-- The effect of one call with its answer. -/
def Naming.update (s : Naming) : (call : Call) → Answer call → Naming
  | .sslNew _, some ssl => { s with carried := Function.update s.carried ssl none }
  | .sslSet1Host ssl name, rc =>
    if rc = 0 then s else { s with carried := Function.update s.carried ssl (installed name) }
  | .sslConnect ssl, _ => { s with handshakes := s.handshakes ++ [s.carried ssl] }
  | _, _ => s

def naming : Behaviour openssl Naming := fun s call answer s' => s' = s.update call answer

/-- The calls that name nothing and connect nothing. -/
def Call.IsUnnamed : Call → Prop
  | .sslNew _ | .sslSet1Host .. | .sslConnect _ => False
  | _ => True

theorem naming_kept (s : Naming) (call : Call) (answer : Answer call) (s' : Naming)
    (unnamed : call.IsUnnamed) (replied : naming s call answer s') : s' = s := by
  subst replied
  cases call <;> first | rfl | exact unnamed.elim

/-- Skip a part of the constructor that names nothing and connects nothing. -/
theorem skipUnnamed {α β : Type} {p : Quic α} {rest : α → Quic β}
    {post : β → Naming → Prop} {s : Naming} (only : Only Call.IsUnnamed p)
    (second : ∀ value, Always naming (rest value) post s) : Always naming (p >>= rest) post s :=
  .skip only naming_kept second

/-! ### The steps of the constructor -/

/-- The name the constructor passes to OpenSSL. -/
def effectiveName (host : Bytes) (options : Option HashTable) : Bytes :=
  (phpQuicOptString options "peer_name").getD host

theorem setExpectedHost_installs {setup : PhpQuicTlsSetup} (peer : setup.verifyPeer = true)
    (named : setup.verifyPeerName = true) (ssl : Ssl) (name : Bytes) (s : Naming) :
    Always naming (Connection.setExpectedHost ssl setup name)
      (fun rc s' => s'.handshakes = s.handshakes ∧ (rc ≠ 0 → s'.carried ssl = installed name)) s := by
  intro rc s' run
  simp only [Connection.setExpectedHost, peer, named, and_self, if_true] at run
  obtain ⟨rc, s₁, replied, rest⟩ := run_ask_iff.mp run
  obtain ⟨rfl, rfl⟩ := run_done_iff.mp rest
  subst replied
  by_cases failed : rc = 0
  · simp [Naming.update, failed]
  · simp [Naming.update, failed]

theorem prepareSsl_installs {setup : PhpQuicTlsSetup} (peer : setup.verifyPeer = true)
    (named : setup.verifyPeerName = true) (ssl : Ssl) (fd : Fd) (alpn : ZendString)
    (address : BioAddr) (host : Bytes) (s : Naming) :
    Always naming (Connection.prepareSsl ssl fd alpn address host setup)
      (fun ok s' => s'.handshakes = s.handshakes ∧
        (ok = true → s'.carried ssl = installed (setup.peerName.getD host))) s := by
  have stopped : Always naming (return false : Quic Bool)
      (fun ok s' => s'.handshakes = s.handshakes ∧
        (ok = true → s'.carried ssl = installed (setup.peerName.getD host))) s :=
    .pure ⟨rfl, nofun⟩
  refine skipUnnamed (.call trivial) fun bio => ?_
  cases bio with
  | none => exact stopped
  | some bio =>
      refine skipUnnamed (.call trivial) fun _ => skipUnnamed (.call trivial) fun _ =>
        .ite (fun _ => stopped) fun _ => skipUnnamed (.call trivial) fun _ =>
        .ite (fun _ => stopped) fun _ => ?_
      refine .bind (setExpectedHost_installs peer named ssl _ s) fun rc s₁ ⟨noted, carries⟩ => ?_
      refine .ite (fun _ => .pure ⟨noted, nofun⟩) fun worked => ?_
      have unnamed : Only Call.IsUnnamed
          (Connection.setServerName ssl setup (setup.peerName.getD host)) :=
        .ite (.call trivial) (.pure _)
      exact skipUnnamed unnamed fun _ => .pure ⟨noted, fun _ => carries worked⟩

/-- The handshake notes the name the SSL object carries, once for each `SSL_connect`. -/
theorem handshake_notes (fuel : Nat) (ssl : Ssl) (fd : Fd) (host : Bytes)
    (port connectTimeoutMs : Int) (s : Naming) :
    Always naming (Connection.handshake fuel ssl fd host port connectTimeoutMs)
      (fun _ s' => ∀ carried ∈ s'.handshakes, carried ∈ s.handshakes ∨ carried = s.carried ssl) s := by
  intro _ s' run
  refine (run.frame (R := fun s s' => s'.carried = s.carried ∧
      ∀ carried ∈ s'.handshakes, carried ∈ s.handshakes ∨ carried = s.carried ssl)
    (handshake_calls fuel ssl fd host port connectTimeoutMs)
    (fun s => ⟨rfl, fun _ member => .inl member⟩) ?_ ?_).2
  · rintro s₁ s₂ s₃ ⟨same₁, noted₁⟩ ⟨same₂, noted₂⟩
    refine ⟨same₂.trans same₁, fun carried member => ?_⟩
    rcases noted₂ carried member with earlier | now
    · exact noted₁ carried earlier
    · exact .inr (now.trans (congrFun same₁ ssl))
  · rintro s call answer s' here replied
    subst replied
    cases call with
    | sslConnect handle =>
        obtain rfl : handle = ssl := here.elim id False.elim
        refine ⟨rfl, fun carried member => ?_⟩
        exact (List.mem_append.mp member).imp_right List.mem_singleton.mp
    | sslNew _ => exact here.elim False.elim False.elim
    | sslSet1Host _ _ => exact here.elim False.elim False.elim
    | _ => exact ⟨rfl, fun _ member => .inl member⟩

/-- What the constructor guarantees of the handshakes so far. -/
def Naming.Carries (s : Naming) (name : Bytes) : Prop :=
  ∀ carried ∈ s.handshakes, carried = installed name

theorem Call.isUnnamed_of {P : Call → Prop} (notNew : ∀ ctx, ¬ P (.sslNew ctx))
    (notHost : ∀ ssl name, ¬ P (.sslSet1Host ssl name)) (notConnect : ∀ ssl, ¬ P (.sslConnect ssl))
    (call : Call) (here : P call) : call.IsUnnamed := by
  cases call with
  | sslNew ctx => exact notNew ctx here
  | sslSet1Host ssl name => exact notHost ssl name here
  | sslConnect ssl => exact notConnect ssl here
  | _ => trivial

section Unnamed

variable {α : Type} {p : Quic α}

theorem unnamed_of_cleanup (only : Only Call.IsCleanup p) : Only Call.IsUnnamed p :=
  only.mono (Call.isUnnamed_of (fun _ => id) (fun _ _ => id) fun _ => id)

theorem unnamed_of_context (only : Only Call.IsContext p) : Only Call.IsUnnamed p :=
  only.mono (Call.isUnnamed_of (fun _ => id) (fun _ _ => id) fun _ => id)

theorem unnamed_of_socket (only : Only Call.IsSocket p) : Only Call.IsUnnamed p :=
  only.mono (Call.isUnnamed_of (fun _ => id) (fun _ _ => id) fun _ => id)

theorem unnamed_of_encoding (only : Only Call.IsEncoding p) : Only Call.IsUnnamed p :=
  only.mono (Call.isUnnamed_of (fun _ => id) (fun _ _ => id) fun _ => id)

theorem unnamed_of_throw (only : Only Call.IsThrow p) : Only Call.IsUnnamed p :=
  only.mono (Call.isUnnamed_of (fun _ => id) (fun _ _ => id) fun _ => id)

theorem unnamed_of_certificate (only : Only Call.IsCertificate p) : Only Call.IsUnnamed p :=
  only.mono (Call.isUnnamed_of (fun _ => id) (fun _ _ => id) fun _ => id)

end Unnamed

theorem sslError_unnamed (alpn : ZendString) (peer : BioAddr) (ssl : Option Ssl)
    (ctx : Option SslCtx) (fd : Fd) :
    Only Call.IsUnnamed (Connection.sslError alpn peer ssl ctx fd) :=
  .bind (unnamed_of_throw (phpQuicThrowSsl_calls _)) fun _ =>
    .bind (unnamed_of_cleanup (connectionCleanup_calls alpn peer ssl ctx fd)) fun _ => .pure _

/-- From the settings of the SSL object to the end: every handshake carries the installed name. -/
theorem establish_carries {setup : PhpQuicTlsSetup} (peer : setup.verifyPeer = true)
    (named : setup.verifyPeerName = true) {s : Naming} (fresh : s.handshakes = []) (fuel : Nat)
    (obj : PhpQuicConnection) (ssl : Ssl) (fd : Fd) (alpn : ZendString) (address : BioAddr)
    (host : Bytes) (port idleTimeoutMs connectTimeoutMs : Int) (options : Option HashTable) :
    Always naming (Connection.establish fuel obj ssl fd alpn address host port idleTimeoutMs
        connectTimeoutMs options setup)
      (fun _ s' => s'.Carries (setup.peerName.getD host)) s := by
  refine .bind (prepareSsl_installs peer named ssl fd alpn address host s) ?_
  rintro ok s₁ ⟨noted, carries⟩
  rw [fresh] at noted
  refine .ite (fun _ => ?_) fun worked => ?_
  · refine skipUnnamed (sslError_unnamed alpn address _ _ fd) fun _ => .pure ?_
    exact fun carried member => absurd (noted ▸ member) List.not_mem_nil
  have carries := carries (by simpa using worked)
  have idle : Only Call.IsUnnamed (Connection.requestIdleTimeout ssl idleTimeoutMs) :=
    .ite (.call trivial) (.pure _)
  have configured : Only Call.IsUnnamed (phpQuicConnectionConfigure ssl) :=
    .bind (.call trivial) fun _ => .call trivial
  refine skipUnnamed idle fun _ => skipUnnamed configured fun _ => ?_
  refine .bind (handshake_notes fuel ssl fd host port connectTimeoutMs s₁) fun shaken s₂ notes => ?_
  have all : s₂.Carries (setup.peerName.getD host) := by
    intro carried member
    rcases notes carried member with earlier | now
    · exact absurd (noted ▸ earlier) List.not_mem_nil
    · exact now.trans carries
  have cleaned : Only Call.IsUnnamed (Connection.cleanup alpn address (some ssl) none fd) :=
    unnamed_of_cleanup (connectionCleanup_calls alpn address _ _ fd)
  match shaken with
  | none => exact .pure all
  | some (.error thrown) => exact skipUnnamed cleaned fun _ => .pure all
  | some (.ok ()) =>
      refine skipUnnamed (unnamed_of_certificate (checkPinning_calls ssl options)) fun pinned => ?_
      cases pinned with
      | error thrown => exact skipUnnamed cleaned fun _ => .pure all
      | ok _ =>
          exact skipUnnamed (.call trivial) fun _ => skipUnnamed (.call trivial) fun _ => .pure all

theorem createSsl_carries {options : Option HashTable}
    (peer : verifyPeerOption options false = true)
    (named : verifyPeerNameOption options false = true) {s : Naming} (fresh : s.handshakes = [])
    (fuel : Nat) (obj : PhpQuicConnection) (fd : Fd) (alpn : ZendString) (address : BioAddr)
    (host : Bytes) (port idleTimeoutMs connectTimeoutMs : Int) :
    Always naming (Connection.createSsl fuel obj fd alpn address host port idleTimeoutMs
        connectTimeoutMs options)
      (fun _ s' => s'.Carries (effectiveName host options)) s := by
  have none : s.Carries (effectiveName host options) :=
    fun carried member => absurd (fresh ▸ member) List.not_mem_nil
  refine skipUnnamed (.call trivial) fun ctx => ?_
  cases ctx with
  | none => exact skipUnnamed (sslError_unnamed alpn address _ _ fd) fun _ => .pure none
  | some ctx =>
  refine .bind ((Always.of_unchanged (unnamed_of_context (phpQuicConfigureCtx_calls ctx options
    false)) naming_kept s).and fun _ _ run =>
      (phpQuicConfigureCtx_setup ctx options false).of_run run) ?_
  rintro configured s₁ ⟨rfl, left⟩
  cases configured with
  | error errbuf =>
      exact skipUnnamed (phpQuicThrow_calls _ _) fun _ =>
        skipUnnamed (unnamed_of_cleanup (connectionCleanup_calls alpn address _ _ fd)) fun _ =>
        .pure none
  | ok setup =>
  obtain rfl := left setup rfl
  refine always_call_bind.mpr fun ssl s₂ replied => ?_
  have fresh : s₂.handshakes = [] := by
    subst replied
    cases ssl <;> exact fresh
  cases ssl with
  | none =>
      refine skipUnnamed (sslError_unnamed alpn address _ _ fd) fun _ => .pure ?_
      exact fun carried member => absurd (fresh ▸ member) List.not_mem_nil
  | some ssl =>
      exact skipUnnamed (.call trivial) fun _ => establish_carries peer named fresh fuel obj ssl fd
        alpn address host port idleTimeoutMs connectTimeoutMs options

/-- **At every handshake the SSL object carries the installed name.** -/
theorem construct_installs {options : Option HashTable}
    (peer : verifyPeerOption options false = true)
    (named : verifyPeerNameOption options false = true) {s : Naming} (fresh : s.handshakes = [])
    (fuel : Nat) (obj : PhpQuicConnection) (host : Bytes) (port : Int) :
    Always naming (Connection.construct fuel obj host port options)
      (fun _ s' => s'.handshakes ≠ [] →
        NulFree host ∧ s'.Carries (effectiveName host options)) s := by
  have refused (thrown : Thrown) : Always naming
      (return some (.error thrown) : Quic (Option (Outcome PhpQuicConnection)))
      (fun _ s' => s'.handshakes ≠ [] →
        NulFree host ∧ s'.Carries (effectiveName host options)) s :=
    .pure fun reached => absurd fresh reached
  refine .ite (fun _ => skipUnnamed (phpQuicThrow_calls _ _) refused) fun _ =>
    .ite (fun _ => skipUnnamed (phpQuicThrow_calls _ _) refused) fun plain =>
    .ite (fun _ => skipUnnamed (phpQuicThrow_calls _ _) refused) fun _ => ?_
  have free : NulFree host := (strlen_eq_length_iff host).mp (not_not.mp plain)
  refine skipUnnamed (unnamed_of_context (readOptions_context options))
    fun ⟨spec, idle, timeout⟩ => ?_
  cases spec with
  | none => exact skipUnnamed (phpQuicThrow_calls _ _) refused
  | some spec =>
  refine skipUnnamed (unnamed_of_encoding (phpQuicAlpnFromZval_calls spec)) fun alpn => ?_
  cases alpn with
  | error errbuf => exact skipUnnamed (phpQuicThrow_calls _ _) refused
  | ok alpn =>
  refine skipUnnamed (unnamed_of_socket (phpQuicUdpClient_calls host _)) fun socket => ?_
  match socket with
  | .error errbuf =>
      exact skipUnnamed (.call trivial) fun _ => skipUnnamed (phpQuicThrow_calls _ _) refused
  | .ok (fd, address) =>
      exact (createSsl_carries peer named fresh fuel obj fd alpn address host port idle
        timeout).mono fun _ _ carries _ => ⟨free, carries⟩

/-! ### The name asked for -/

/-- The name to check for: the whole `peer_name` option when it is given, the host otherwise. -/
def requestedName (host : Bytes) : Option Zval → Option Bytes
  | none => some host
  | some option =>
    match zvalDeref option with
    | .string name => some name
    | _ => none

/-- Name verification as it was asked for: at every handshake there is a name, not empty, and it is
the one to check for. -/
def NameVerified (host : Bytes) (options : Option HashTable) (s : Naming) : Prop :=
  ∀ carried ∈ s.handshakes, ∃ name, carried = some name ∧ name ≠ [] ∧
    requestedName host (findOption options "peer_name") = some name

/-- **The `peer_name` options name verification works with**: none at all, with a host; a plain
string, neither empty nor with a NUL byte; a PHP reference to the very host. -/
def NameUsable (host : Bytes) : Option Zval → Prop
  | none => host ≠ []
  | some (.string name) => name ≠ [] ∧ NulFree name
  | some (.reference target) => host ≠ [] ∧ zvalDeref target = .string host
  | some _ => False

theorem installed_eq_some_iff {effective name : Bytes} :
    installed effective = some name ↔ effective = name ∧ name ≠ [] := by
  unfold installed
  split
  · rename_i empty
    simp only [reduceCtorEq, false_iff, not_and, not_not]
    rintro rfl
    exact empty
  · rename_i some
    rw [Option.some.injEq]
    exact ⟨fun same => ⟨same, same ▸ some⟩, And.left⟩

/-- The name the code uses is the name asked for, and not empty, exactly on usable options. -/
theorem effectiveName_requested_iff {host : Bytes} (free : NulFree host)
    (options : Option HashTable) :
    effectiveName host options ≠ [] ∧
        requestedName host (findOption options "peer_name") = some (effectiveName host options) ↔
      NameUsable host (findOption options "peer_name") := by
  unfold effectiveName phpQuicOptString
  cases findOption options "peer_name" with
  | none => simp [requestedName, NameUsable]
  | some option =>
      cases option with
      | string name =>
          by_cases plain : NulFree name
          · simp [borrowString, (strlen_eq_length_iff name).mpr plain, cString_eq_self plain,
              requestedName, zvalDeref, NameUsable, plain]
          · have cut : strlen name ≠ name.length := fun same =>
              plain ((strlen_eq_length_iff name).mp same)
            simp only [borrowString, cut, Option.bind_some, if_false, Option.getD_none,
              requestedName, zvalDeref, NameUsable, plain, and_false, iff_false, Option.some.injEq]
            rintro ⟨_, rfl⟩
            exact plain free
      | reference target =>
          simp only [borrowString, Option.bind_some, Option.getD_none, requestedName, zvalDeref,
            NameUsable]
          cases zvalDeref target <;> simp
      | _ => simp [borrowString, requestedName, zvalDeref, NameUsable]

/-- **With name verification in force, a run that reaches the handshake has the peer checked for
the name asked for, exactly when the `peer_name` option is usable.** -/
theorem handshake_named_iff {fuel : Nat} {obj : PhpQuicConnection} {host : Bytes} {port : Int}
    {options : Option HashTable} {outcome : Option (Outcome PhpQuicConnection)} {s s' : Naming}
    (peer : verifyPeerOption options false = true)
    (named : verifyPeerNameOption options false = true) (fresh : s.handshakes = [])
    (run : Run naming (Connection.construct fuel obj host port options) s outcome s')
    (reached : s'.handshakes ≠ []) :
    NameVerified host options s' ↔ NameUsable host (findOption options "peer_name") := by
  obtain ⟨free, carries⟩ := construct_installs peer named fresh fuel obj host port _ _ run reached
  rw [← effectiveName_requested_iff free]
  constructor
  · intro verified
    obtain ⟨carried, member⟩ := List.exists_mem_of_ne_nil _ reached
    obtain ⟨name, has, some, requested⟩ := verified carried member
    obtain ⟨rfl, -⟩ := installed_eq_some_iff.mp ((carries carried member).symm.trans has)
    exact ⟨some, requested⟩
  · rintro ⟨some, requested⟩ carried member
    exact ⟨_, (carries carried member).trans (installed_eq_some_iff.mpr ⟨rfl, some⟩), some, requested⟩

/-! ### One usable and one unusable option -/

/-- The environment in which every call works. -/
def namingHandler : Handler openssl Naming := fun s call =>
  (succeeding call, s.update call (succeeding call))

def namingStart : Naming := ⟨fun _ => none, []⟩

/-- Options with the ALPN protocol `h3`, a peer name, and no SNI. -/
def namedOptions (name : Zval) : Option HashTable :=
  some [(.name (text "alpn"), .string (text "h3")), (.name (text "peer_name"), name),
    (.name (text "SNI_enabled"), .bool false)]

/-- The constructor for the host `a.example`, with a peer name. -/
def namedConstruct (name : Zval) : Quic (Option (Outcome PhpQuicConnection)) :=
  Connection.construct 1 quicConnectionCreate (text "a.example") 443 (namedOptions name)

theorem namedConstruct_run (name : Zval) :
    Run naming (namedConstruct name) namingStart (exec namingHandler (namedConstruct name)
      namingStart).1 (exec namingHandler (namedConstruct name) namingStart).2 :=
  run_exec (fun _ _ => rfl) _ _

/-- `'peer_name' => 'b.example'`: the name is carried. -/
theorem handshake_named_example :
    NameVerified (text "a.example") (namedOptions (.string (text "b.example")))
      (exec namingHandler (namedConstruct (.string (text "b.example"))) namingStart).2 := by
  refine (handshake_named_iff rfl rfl rfl (namedConstruct_run _) ?_).mpr ?_
  · decide
  · exact ⟨by decide, by decide⟩

/-- **`'peer_name' => ''`: the handshake is reached, and no name is checked.** -/
theorem handshake_unnamed :
    ∃ outcome s', Run naming (namedConstruct (.string [])) namingStart outcome s' ∧
      verifyPeerOption (namedOptions (.string [])) false = true ∧
      verifyPeerNameOption (namedOptions (.string [])) false = true ∧
      s'.handshakes ≠ [] ∧
      ¬ NameVerified (text "a.example") (namedOptions (.string [])) s' := by
  refine ⟨_, _, namedConstruct_run _, rfl, rfl, by decide, fun verified => ?_⟩
  have noted : none ∈ (exec namingHandler (namedConstruct (.string [])) namingStart).2.handshakes :=
    by decide
  obtain ⟨name, has, _⟩ := verified none noted
  cases has

end PhpQuic
