/-
**The constructors are all-or-nothing.**

* `connectionCleanup_keeps`, `listenerCleanup_keeps`: from every state in which a constructor jumps
  to its label, the label releases the whole hand, and the ledger is as it was before the call.
* `construct_keeps_connection`, `construct_keeps_listener`: the two ends of each constructor.
* `construct_spins`: a client constructor that does not end makes one `SSL_connect` per round.
* `connection_ends`, `listener_ends`: every finished call has come to set the fields, which own all it
  acquired and did not release; or to an error of its own, and released all it acquired.
* `constructors_allOrNothing_iff`: as PHP sees them, the calls are all-or-nothing exactly if no
  conversion of an option has left an exception pending when the fields are set. Nothing looks for
  one, so the call then throws with the fields set.
-/

import PhpQuic.Proof.Ledger
import PhpQuic.Openssl.Environment

namespace PhpQuic

open Interact

namespace Ledger

variable {s : Ledger} {hand rest split : Multiset Asset} {made : MadeSsl}

/-! ### Calls that cost nothing -/

theorem costless_context (call : Call) (here : call.IsContext) : call.IsCostless := by
  cases call <;> first | exact trivial | exact here.elim

theorem costless_throw (call : Call) (here : call.IsThrow) : call.IsCostless := by
  cases call <;> first | exact trivial | exact here.elim

theorem costless_handshake {ssl : Ssl} (call : Call) (here : call.IsHandshake ssl) :
    call.IsCostless := by
  cases call <;> first | exact trivial | exact here.elim

theorem throwSsl_costless (format : Bytes) : Only Call.IsCostless (phpQuicThrowSsl format) :=
  (phpQuicThrowSsl_calls format).mono costless_throw

/-- The first thing in the hand is the encoded list. -/
theorem alpnFromZval_starts (spec : Zval) :
    Keeps s (phpQuicAlpnFromZval spec)
      (fun result t => t = s.holds (heldBy (fun alpn => {.string alpn.id}) result) none) s := by
  have encodes : Keeps s (phpQuicAlpnFromZval spec) _ (s.holds 0 none) := alpnFromZval_keeps spec
  rw [holds_nothing] at encodes
  exact encodes.mono fun result t same => by rw [same, add_zero]

/-! ### The releases of a label -/

/-- What a context variable has. -/
def heldCtx : Option SslCtx → Multiset Asset
  | some ctx => {.ctx ctx}
  | none => 0

/-- The SSL object in the hand is a new one. -/
def IsNew (s : Ledger) (made : MadeSsl) : Prop := ∀ ssl ∈ made.map Prod.fst, s.inside ssl = 0

theorem isNew_none : s.IsNew none := fun _ member => absurd member (Option.not_mem_none _)

theorem isNew_some {ssl : Ssl} {contents : Multiset Asset} (fresh : s.inside ssl = 0) :
    s.IsNew (some (ssl, contents)) := fun _ same => Option.some.inj same ▸ fresh

theorem freesMade (new : s.IsNew made) :
    Keeps s (freeSsl (made.map Prod.fst)) (fun _ t => t = s.holds hand none) (s.holds hand made) := by
  rcases made with _ | ⟨ssl, contents⟩
  · exact .pure rfl
  · exact freesSsl (new ssl rfl)

theorem freesCtx (ctx : Option SslCtx) :
    Keeps s (freeCtx ctx) (fun _ t => t = s.holds rest made) (s.holds (heldCtx ctx + rest) made) := by
  cases ctx with
  | none => exact .pure (by rw [heldCtx, zero_add])
  | some ctx => exact releases rfl rfl

/-- The end of both labels: the SSL object, the context, the socket. -/
theorem freesRest {ctx : Option SslCtx} {fd : Fd} (new : s.IsNew made) :
    Keeps s (do
      freeSsl (made.map Prod.fst)
      freeCtx ctx
      ask (.bioClosesocket fd)) (fun _ t => t = s)
      (s.holds (heldCtx ctx + {.descriptor fd}) made) := by
  refine .bind (freesMade new) fun _ t same => ?_
  subst same
  refine .bind (freesCtx ctx) fun _ t same => ?_
  subst same
  exact (releases rfl (add_zero _).symm).mono fun _ t same => same.trans holds_nothing

/-! ### The client -/

section Client

variable {alpn : ZendString} {peer : BioAddr} {fd : Fd} {ctx : Option SslCtx}

/-- The hand of the client at its labels, in the order of the releases. -/
def clientHand (alpn : ZendString) (peer : BioAddr) (ctx : Option SslCtx) (fd : Fd) :
    Multiset Asset :=
  {.string alpn.id} + ({.address peer} + (heldCtx ctx + {.descriptor fd}))

/-- With a new context. -/
theorem clientHand_ctx {own : SslCtx} :
    {.ctx own} + clientHand alpn peer none fd = clientHand alpn peer (some own) fd := by
  simp only [clientHand, heldCtx]
  abel

/-- Before the context. -/
theorem clientHand_socket :
    {.descriptor fd} + {.address peer} + {.string alpn.id} = clientHand alpn peer none fd := by
  simp only [clientHand, heldCtx]
  abel

theorem connectionCleanup_keeps (new : s.IsNew made) :
    Keeps s (Connection.cleanup alpn peer (made.map Prod.fst) ctx fd) (fun _ t => t = s)
      (s.holds (clientHand alpn peer ctx fd) made) := by
  refine releases_bind rfl rfl fun _ => ?_
  refine releases_bind rfl rfl fun _ => ?_
  exact freesRest new

theorem connectionError_keeps (new : s.IsNew made) :
    Keeps s (Connection.sslError alpn peer (made.map Prod.fst) ctx fd) (fun _ t => t = s)
      (s.holds (clientHand alpn peer ctx fd) made) :=
  skips (throwSsl_costless _) fun _ =>
    .bind (connectionCleanup_keeps new) fun _ _ same => .pure same

/-- The BIO is in the SSL object from here on, or there is none. -/
theorem prepareSsl_keeps {ssl : Ssl} {own : SslCtx} (host : Bytes) (setup : PhpQuicTlsSetup) :
    Keeps s (Connection.prepareSsl ssl fd alpn peer host setup)
      (fun ok t => ∃ contents, t = s.holds hand (some (ssl, contents)) ∧
        (ok = true → ∃ bio, contents = {.ctx own} + {.bio bio}))
      (s.holds hand (some (ssl, {.ctx own}))) := by
  refine .ask_bind (.inl rfl) ?_
  rintro bio _ ⟨-, rfl⟩
  cases bio with
  | none =>
      rw [after_failed rfl rfl rfl]
      exact .pure ⟨_, rfl, nofun⟩
  | some bio =>
      rw [after_acquired rfl rfl rfl]
      refine .bind setsBio fun _ t same => ?_
      subst same
      have names : Only Call.IsCostless
          (Connection.setExpectedHost ssl setup (setup.peerName.getD host)) :=
        .ite (.call trivial) (.pure _)
      have indicates : Only Call.IsCostless
          (Connection.setServerName ssl setup (setup.peerName.getD host)) :=
        .ite (.call trivial) (.pure _)
      have refused : ∃ contents, s.holds hand (some (ssl, {.ctx own} + {.bio bio})) =
          s.holds hand (some (ssl, contents)) ∧
          (false = true → ∃ bio, contents = {.ctx own} + {.bio bio}) := ⟨_, rfl, nofun⟩
      refine skips (.call trivial) fun _ => .ite (fun _ => .pure refused) fun _ => ?_
      refine skips (.call trivial) fun _ => .ite (fun _ => .pure refused) fun _ => ?_
      refine skips names fun _ => .ite (fun _ => .pure refused) fun _ => ?_
      exact skips indicates fun _ => .pure ⟨_, rfl, fun _ => ⟨bio, rfl⟩⟩

/-- How the client's constructor ends: what is in the hand then is in the fields and in the SSL
object, or there is nothing in it. -/
inductive ClientKept (s : Ledger) (obj : PhpQuicConnection) :
    Option (Outcome PhpQuicConnection) → Ledger → Prop
  | made {ssl : Ssl} {fd : Fd} {own : SslCtx} {bio : Bio} (fresh : s.inside ssl = 0) :
      ClientKept s obj
        (some (.ok { obj with ssl := some ssl, fd := some fd, ownsFd := true, closed := false }))
        (s.holds {.descriptor fd} (some (ssl, {.ctx own} + {.bio bio})))
  | threw (thrown : Thrown) : ClientKept s obj (some (.error thrown)) s
  | connecting (t : Ledger) : ClientKept s obj none t

theorem establish_keeps {ssl : Ssl} {own : SslCtx} (fresh : s.inside ssl = 0) (fuel : Nat)
    (obj : PhpQuicConnection) (host : Bytes) (port idleTimeoutMs connectTimeoutMs : Int)
    (options : Option HashTable) (setup : PhpQuicTlsSetup) :
    Keeps s (Connection.establish fuel obj ssl fd alpn peer host port idleTimeoutMs
      connectTimeoutMs options setup) (ClientKept s obj)
      (s.holds (clientHand alpn peer none fd) (some (ssl, {.ctx own}))) := by
  refine .bind (prepareSsl_keeps host setup) fun ok t ⟨contents, same, whole⟩ => ?_
  subst same
  have new : s.IsNew (some (ssl, contents)) := isNew_some fresh
  have cleaned (thrown : Thrown) : Keeps s (do
      Connection.cleanup alpn peer (some ssl) none fd
      return some (.error thrown)) (ClientKept s obj)
      (s.holds (clientHand alpn peer none fd) (some (ssl, contents))) :=
    .bind (connectionCleanup_keeps new) fun _ t same => .pure (same ▸ .threw thrown)
  have idle : Only Call.IsCostless (Connection.requestIdleTimeout ssl idleTimeoutMs) :=
    .ite (.call trivial) (.pure _)
  have configured : Only Call.IsCostless (phpQuicConnectionConfigure ssl) :=
    .bind (.call trivial) fun _ => .call trivial
  have shakes : Only Call.IsCostless
      (Connection.handshake fuel ssl fd host port connectTimeoutMs) := by
    refine (handshake_calls fuel ssl fd host port connectTimeoutMs).mono fun call here => ?_
    exact here.elim (costless_handshake call) (costless_throw call)
  refine .ite (fun _ => ?_) fun prepared => ?_
  · exact .bind (connectionError_keeps new) fun thrown t same => .pure (same ▸ .threw thrown)
  obtain ⟨bio, rfl⟩ := whole (by simpa using prepared)
  refine skips idle fun _ => skips configured fun _ => skips shakes fun shaken => ?_
  match shaken with
  | none => exact .pure (.connecting _)
  | some (.error thrown) => exact cleaned thrown
  | some (.ok ()) =>
      refine .bind (checkPinning_keeps ssl options) fun pinned t same => ?_
      subst same
      cases pinned with
      | error thrown => exact cleaned thrown
      | ok _ =>
          refine releases_bind rfl rfl fun _ => ?_
          refine releases_bind rfl rfl fun _ => ?_
          rw [heldCtx, zero_add]
          exact .pure (.made fresh)

theorem createSsl_keeps (fuel : Nat) (obj : PhpQuicConnection) (host : Bytes)
    (port idleTimeoutMs connectTimeoutMs : Int) (options : Option HashTable) :
    Keeps s (Connection.createSsl fuel obj fd alpn peer host port idleTimeoutMs connectTimeoutMs
      options) (ClientKept s obj) (s.holds (clientHand alpn peer none fd) none) := by
  have failed (ctx : Option SslCtx) : Keeps s (do
      return some (.error (← Connection.sslError alpn peer none ctx fd))) (ClientKept s obj)
      (s.holds (clientHand alpn peer ctx fd) none) :=
    .bind (connectionError_keeps isNew_none) fun thrown t same => .pure (same ▸ .threw thrown)
  refine .ask_bind (.inl rfl) ?_
  rintro made _ ⟨-, rfl⟩
  cases made with
  | none =>
      rw [after_failed rfl rfl rfl]
      exact failed none
  | some own =>
      rw [after_acquired rfl rfl rfl]
      have hand : gained (.sslCtxNew false) (some own) + clientHand alpn peer none fd =
          clientHand alpn peer (some own) fd := clientHand_ctx
      refine skips ((phpQuicConfigureCtx_calls own options false).mono costless_context)
        fun configured => ?_
      cases configured with
      | error errbuf =>
          rw [hand]
          refine skips (phpQuicThrow_calls _ _) fun thrown => ?_
          exact .bind (connectionCleanup_keeps isNew_none) fun _ t same =>
            .pure (same ▸ .threw thrown)
      | ok setup =>
          refine .ask_bind (.inl rfl) ?_
          rintro made _ ⟨fresh, rfl⟩
          cases made with
          | none =>
              rw [after_failed rfl rfl rfl, hand]
              exact failed (some own)
          | some ssl =>
              rw [after_madeSsl]
              refine releases_bind rfl rfl fun _ => ?_
              have new : s.inside ssl = 0 := fresh
              exact establish_keeps new fuel obj host port idleTimeoutMs connectTimeoutMs options
                setup

/-- **How `Connection::__construct` ends.** -/
theorem construct_keeps_connection (fuel : Nat) (obj : PhpQuicConnection) (host : Bytes)
    (port : Int) (options : Option HashTable) :
    Keeps s (Connection.construct fuel obj host port options) (ClientKept s obj) s := by
  have refused (format : Bytes) : Keeps s (do
      return some (.error (← phpQuicThrow format))) (ClientKept s obj) s :=
    skips (phpQuicThrow_calls _ _) fun thrown => .pure (.threw thrown)
  refine .ite (fun _ => refused _) fun _ => .ite (fun _ => refused _) fun _ =>
    .ite (fun _ => refused _) fun _ => ?_
  refine skips ((readOptions_context options).mono costless_context) fun ⟨spec, idle, timeout⟩ => ?_
  cases spec with
  | none => exact refused _
  | some spec =>
      refine .bind (alpnFromZval_starts spec) fun alpn t same => ?_
      subst same
      cases alpn with
      | error errbuf =>
          rw [heldBy, holds_nothing]
          exact refused _
      | ok alpn =>
          refine .bind (udpClient_keeps host _) fun socket t same => ?_
          subst same
          rcases socket with errbuf | ⟨fd, peer⟩
          · refine releases_bind rfl (add_zero _).symm fun _ => ?_
            rw [holds_nothing]
            exact refused _
          · rw [heldClient, heldBy, heldBy, clientHand_socket]
            exact createSsl_keeps fuel obj host port idle timeout options

end Client

/-! ### The listener -/

section Server

open Listener (AlpnOwner)

variable {fd : Fd} {ctx : Option SslCtx}

/-- What the callback data has, or the string before there is any. -/
def heldAlpn : AlpnOwner → Multiset Asset
  | .string alpn => {.string alpn.id}
  | .data adata => {.string adata.alpn.id} + {.block adata.id}

/-- The hand of the listener at its labels, in the order of the releases. -/
def serverHand (owner : AlpnOwner) (ctx : Option SslCtx) (fd : Fd) : Multiset Asset :=
  heldAlpn owner + (heldCtx ctx + {.descriptor fd})

theorem serverHand_ctx {owner : AlpnOwner} {own : SslCtx} :
    {.ctx own} + serverHand owner none fd = serverHand owner (some own) fd := by
  simp only [serverHand, heldCtx]
  abel

/-- The callback data takes the string over. -/
theorem serverHand_data {id : Nat} {alpn : ZendString} :
    {.block id} + serverHand (.string alpn) ctx fd = serverHand (.data ⟨id, alpn⟩) ctx fd := by
  simp only [serverHand, heldAlpn]
  abel

/-- Before the context. -/
theorem serverHand_socket {alpn : ZendString} :
    {.descriptor fd} + {.string alpn.id} = serverHand (.string alpn) none fd := by
  simp only [serverHand, heldAlpn, heldCtx]
  abel

theorem releaseAlpn_keeps (owner : AlpnOwner) :
    Keeps s (Listener.releaseAlpn owner) (fun _ t => t = s.holds rest made)
      (s.holds (heldAlpn owner + rest) made) := by
  cases owner with
  | string alpn => exact releases rfl rfl
  | data adata =>
      refine releases_bind rfl (add_assoc _ _ _) fun _ => ?_
      exact releases rfl rfl

theorem listenerCleanup_keeps (owner : AlpnOwner) (new : s.IsNew made) :
    Keeps s (Listener.cleanup owner (made.map Prod.fst) ctx fd) (fun _ t => t = s)
      (s.holds (serverHand owner ctx fd) made) := by
  refine .bind (releaseAlpn_keeps owner) fun _ t same => ?_
  subst same
  exact freesRest new

theorem listenerError_keeps (owner : AlpnOwner) (new : s.IsNew made) :
    Keeps s (Listener.sslError owner (made.map Prod.fst) ctx fd) (fun _ t => t = s)
      (s.holds (serverHand owner ctx fd) made) :=
  skips (throwSsl_costless _) fun _ =>
    .bind (listenerCleanup_keeps owner new) fun _ _ same => .pure same

/-- How the listener's constructor ends. -/
inductive ServerKept (s : Ledger) : Outcome PhpQuicListener → Ledger → Prop
  | made {ssl : Ssl} {fd : Fd} {own : SslCtx} {bio : Bio} {adata : QuicAlpnData}
      (fresh : s.inside ssl = 0) :
      ServerKept s
        (.ok { ssl := some ssl, ctx := some own, fd := some fd, alpnCbArg := some adata })
        (s.holds (serverHand (.data adata) (some own) fd) (some (ssl, {.ctx own} + {.bio bio})))
  | threw (thrown : Thrown) : ServerKept s (.error thrown) s

theorem startListening_keeps {own : SslCtx} (alpn : ZendString) (host : Bytes) (port : Int) :
    Keeps s (Listener.startListening fd own alpn host port) (ServerKept s)
      (s.holds (serverHand (.string alpn) (some own) fd) none) := by
  refine .ask_bind (.inl rfl) ?_
  rintro id _ ⟨-, rfl⟩
  have hand : gained .emalloc id + serverHand (.string alpn) (some own) fd =
      serverHand (.data ⟨id, alpn⟩) (some own) fd := serverHand_data
  rw [after_acquired rfl rfl rfl, hand]
  have failed {made : MadeSsl} (new : s.IsNew made) : Keeps s (do
      return .error (← Listener.sslError (.data ⟨id, alpn⟩) (made.map Prod.fst) (some own) fd))
      (ServerKept s) (s.holds (serverHand (.data ⟨id, alpn⟩) (some own) fd) made) :=
    .bind (listenerError_keeps _ new) fun thrown t same => .pure (same ▸ .threw thrown)
  refine skips (.call trivial) fun _ => .ask_bind (.inl rfl) ?_
  rintro made _ ⟨fresh, rfl⟩
  cases made with
  | none =>
      rw [after_failed rfl rfl rfl]
      exact failed isNew_none
  | some ssl =>
      rw [after_madeListener]
      have unused : s.inside ssl = 0 := fresh
      refine .ask_bind (.inl rfl) ?_
      rintro bio _ ⟨-, rfl⟩
      cases bio with
      | none =>
          rw [after_failed rfl rfl rfl]
          exact failed (isNew_some unused)
      | some bio =>
          rw [after_acquired rfl rfl rfl]
          refine .bind setsBio fun _ t same => ?_
          subst same
          refine skips (.call trivial) fun _ => .ite (fun _ => ?_) fun _ => .pure (.made unused)
          refine skips (throwSsl_costless _) fun thrown => ?_
          exact .bind (listenerCleanup_keeps _ (isNew_some unused)) fun _ t same =>
            .pure (same ▸ .threw thrown)

theorem createCtx_keeps (alpn : ZendString) (host : Bytes) (port : Int) (options : HashTable) :
    Keeps s (Listener.createCtx fd alpn host port options) (ServerKept s)
      (s.holds (serverHand (.string alpn) none fd) none) := by
  refine .ask_bind (.inl rfl) ?_
  rintro made _ ⟨-, rfl⟩
  cases made with
  | none =>
      rw [after_failed rfl rfl rfl]
      exact .bind (listenerError_keeps (.string alpn) isNew_none) fun thrown t same =>
        .pure (same ▸ .threw thrown)
  | some own =>
      have hand : gained (.sslCtxNew true) (some own) + serverHand (.string alpn) none fd =
          serverHand (.string alpn) (some own) fd := serverHand_ctx
      rw [after_acquired rfl rfl rfl, hand]
      refine skips ((phpQuicConfigureCtx_calls own (some options) true).mono costless_context)
        fun configured => ?_
      cases configured with
      | error errbuf =>
          refine skips (phpQuicThrow_calls _ _) fun thrown => ?_
          exact .bind (listenerCleanup_keeps (.string alpn) isNew_none) fun _ t same =>
            .pure (same ▸ .threw thrown)
      | ok setup => exact startListening_keeps alpn host port

/-- **How `Listener::__construct` ends.** -/
theorem construct_keeps_listener (obj : PhpQuicListener) (host : Bytes) (port : Int)
    (options : HashTable) :
    Keeps s (Listener.construct obj host port options) (ServerKept s) s := by
  have refused (format : Bytes) : Keeps s
      (throwing (phpQuicThrow format) : Quic (Outcome PhpQuicListener)) (ServerKept s) s :=
    skips (phpQuicThrow_calls _ _) fun thrown => .pure (.threw thrown)
  refine .ite (fun _ => refused _) fun _ => .ite (fun _ => refused _) fun _ =>
    .ite (fun _ => refused _) fun _ => ?_
  dsimp only
  split
  · exact refused _
  rename_i spec _
  refine .bind (alpnFromZval_starts spec) fun alpn t same => ?_
  subst same
  cases alpn with
  | error errbuf =>
      rw [heldBy, holds_nothing]
      exact refused _
  | ok alpn =>
      refine .bind (udpServer_keeps host _ _) fun socket t same => ?_
      subst same
      cases socket with
      | error errbuf =>
          refine releases_bind rfl (add_zero _).symm fun _ => ?_
          rw [holds_nothing]
          exact refused _
      | ok fd =>
          rw [heldBy, heldBy, serverHand_socket]
          exact createCtx_keeps alpn host port options

end Server

end Ledger

/-! ### A handshake that does not end -/

/-- The calls that begin a round of the handshake. -/
def Call.connects : Call → Bool
  | .sslConnect _ => true
  | _ => false

/-- No result only after `fuel` rounds more. -/
def Spins {α : Type} (fuel number : Nat) (result : Option α) (number' : Nat) : Prop :=
  result = none → number + fuel ≤ number'

abbrev AlwaysSpins {α : Type} (fuel : Nat) (p : Quic (Option α)) (number : Nat) : Prop :=
  Always (counting Call.connects) p (Spins fuel number) number

/-- A part that has a result in the end. -/
theorem spins_returns {α : Type} {p : Quic (Option α)} {fuel number later : Nat}
    (returns : Returns (· ≠ none) p) :
    Always (counting Call.connects) p (Spins fuel number) later :=
  fun _ _ run none => absurd none (returns.of_run run)

/-- What comes first only makes the rounds more. -/
theorem spins_bind {α β : Type} {fuel number : Nat} {p : Quic α} {rest : α → Quic (Option β)}
    (second : ∀ value later, AlwaysSpins fuel (rest value) later) :
    AlwaysSpins fuel (p >>= rest) number := by
  have more : Always (counting Call.connects) p (fun _ later => number ≤ later) number :=
    fun _ _ run => run.relation Nat.le_refl (fun _ _ _ => Nat.le_trans)
      fun _ _ _ _ counted => Nat.le.intro (Eq.symm counted)
  refine .bind more fun value later le => (second value later).mono fun result last spins none => ?_
  exact Nat.le_trans (Nat.add_le_add_right le fuel) (spins none)

theorem connectTimedLoop_spins (ssl : Ssl) (fd : Fd) (timeoutMs : Int) (start fuel number : Nat) :
    AlwaysSpins fuel (connectTimedLoop ssl fd timeoutMs start fuel) number := by
  induction fuel generalizing number with
  | zero => exact .pure fun _ => Nat.le_refl _
  | succ fuel ih =>
      have leave (rc : Int) (later : Nat) : Always (counting Call.connects) (do
          let _ ← ask (.sslSetBlockingMode ssl true)
          return some rc) (Spins (fuel + 1) number) later :=
        spins_returns (.bind_any fun _ => .pure nofun)
      refine always_call_bind.mpr ?_
      rintro rc _ rfl
      refine .ite (fun _ => leave 1 _) fun _ => always_call_bind.mpr ?_
      rintro err _ rfl
      refine .ite (fun _ => leave 0 _) fun _ => always_call_bind.mpr ?_
      rintro now _ rfl
      refine .ite (fun _ => leave (-1) _) fun _ => ?_
      have round : AlwaysSpins fuel (do
          let timer ← ask (.sslGetEventTimeout ssl)
          let readDesired ← ask (.sslNetReadDesired ssl)
          let writeDesired ← ask (.sslNetWriteDesired ssl)
          ask (.phpPollfdForMs fd (readDesired || !writeDesired) writeDesired
            (connectWaitMs (timeoutMs - toInt64 ((now : Int) - start)) timer))
          ask (.sslHandleEvents ssl)
          connectTimedLoop ssl fd timeoutMs start fuel) (number + 1) :=
        spins_bind fun _ _ => spins_bind fun _ _ => spins_bind fun _ _ => spins_bind fun _ _ =>
          spins_bind fun _ later => ih later
      refine round.mono fun result last spins none => ?_
      have rounds := spins none
      omega

theorem handshake_spins (fuel : Nat) (ssl : Ssl) (fd : Fd) (host : Bytes)
    (port connectTimeoutMs : Int) (number : Nat) :
    AlwaysSpins fuel (Connection.handshake fuel ssl fd host port connectTimeoutMs) number := by
  refine .ite (fun _ => ?_) fun _ => ?_
  · have timed : AlwaysSpins fuel (phpQuicConnectTimed fuel ssl fd connectTimeoutMs) number :=
      spins_bind fun _ _ => spins_bind fun _ later => connectTimedLoop_spins ssl fd _ _ fuel later
    refine .bind timed fun verdict later spins => ?_
    cases verdict with
    | none => exact .pure fun _ => spins rfl
    | some hs =>
        refine spins_returns ?_
        exact .ite (.bind_any fun _ => .pure nofun) <|
          .ite (.bind_any fun _ => .pure nofun) (.pure nofun)
  · refine spins_returns ?_
    exact .bind_any fun _ => .ite (.bind_any fun _ => .pure nofun) (.pure nofun)

theorem establish_spins (fuel : Nat) (obj : PhpQuicConnection) (ssl : Ssl) (fd : Fd)
    (alpn : ZendString) (peer : BioAddr) (host : Bytes) (port idleTimeoutMs connectTimeoutMs : Int)
    (options : Option HashTable) (setup : PhpQuicTlsSetup) (number : Nat) :
    AlwaysSpins fuel (Connection.establish fuel obj ssl fd alpn peer host port idleTimeoutMs
      connectTimeoutMs options setup) number := by
  refine spins_bind fun ok later => .ite (fun _ => ?_) fun _ => ?_
  · exact spins_returns (.bind_any fun _ => .pure nofun)
  refine spins_bind fun _ _ => spins_bind fun _ _ => .bind (handshake_spins _ _ _ _ _ _ _) ?_
  intro shaken last spins
  match shaken with
  | none => exact .pure fun _ => spins rfl
  | some (.error thrown) => exact spins_returns (.bind_any fun _ => .pure nofun)
  | some (.ok ()) =>
      refine spins_returns (.bind_any fun pinned => ?_)
      cases pinned with
      | error thrown => exact .bind_any fun _ => .pure nofun
      | ok _ => exact .bind_any fun _ => .bind_any fun _ => .pure nofun

/-- **A client constructor without a result** has made `fuel` rounds of the handshake. -/
theorem construct_spins (fuel : Nat) (obj : PhpQuicConnection) (host : Bytes) (port : Int)
    (options : Option HashTable) (number : Nat) :
    AlwaysSpins fuel (Connection.construct fuel obj host port options) number := by
  have refused (format : Bytes) (later : Nat) : AlwaysSpins fuel (do
      return some (.error (← phpQuicThrow format)) : Quic (Option (Outcome PhpQuicConnection)))
      later := spins_returns (.bind_any fun _ => .pure nofun)
  refine .ite (fun _ => refused _ _) fun _ => .ite (fun _ => refused _ _) fun _ =>
    .ite (fun _ => refused _ _) fun _ => spins_bind fun ⟨spec, idle, timeout⟩ later => ?_
  cases spec with
  | none => exact refused _ _
  | some spec =>
  refine spins_bind fun alpn later => ?_
  cases alpn with
  | error errbuf => exact refused _ _
  | ok alpn =>
  refine spins_bind fun socket later => ?_
  match socket with
  | .error errbuf => exact spins_bind fun _ _ => refused _ _
  | .ok (fd, peer) =>
  refine spins_bind fun made later => ?_
  cases made with
  | none => exact spins_returns (.bind_any fun _ => .pure nofun)
  | some own =>
  refine spins_bind fun configured later => ?_
  cases configured with
  | error errbuf =>
      exact spins_returns (.bind_any fun _ => .bind_any fun _ => .pure nofun)
  | ok setup =>
  refine spins_bind fun made later => ?_
  cases made with
  | none => exact spins_returns (.bind_any fun _ => .pure nofun)
  | some ssl => exact spins_bind fun _ later => establish_spins _ _ _ _ _ _ _ _ _ _ _ _ later

/-! ### All or nothing -/

/-- Every release of the trace is of something acquired in it and still outstanding. -/
def ReleasesOwn (s : Ledger) (exchanges : List (Exchange openssl Ledger)) : Prop :=
  ∀ exchange ∈ exchanges, Releasable s.outstanding exchange.before exchange.call

/-- The ends of `Connection::__construct`. With the fields set they own, with what the SSL object
holds, all that was acquired and not released; with an exception nothing of it is left. -/
inductive ClientEnds (fuel : Nat) (obj : PhpQuicConnection) (s : Ledger)
    (exchanges : List (Exchange openssl Ledger)) :
    Option (Outcome PhpQuicConnection) → Ledger → Prop
  | made {ssl : Ssl} {fd : Fd} {own : SslCtx} {bio : Bio} {s' : Ledger}
      (inside : s'.inside ssl = {.ctx own} + {.bio bio})
      (owned : acquired exchanges =
        released exchanges + ({.descriptor fd} + ({.ssl ssl} + s'.inside ssl))) :
      ClientEnds fuel obj s exchanges
        (some (.ok { obj with ssl := some ssl, fd := some fd, ownsFd := true, closed := false })) s'
  | threw {thrown : Thrown} (balanced : acquired exchanges = released exchanges) :
      ClientEnds fuel obj s exchanges (some (.error thrown)) s
  | connecting {s' : Ledger}
      (rounds : fuel ≤ exchanges.countP fun exchange => exchange.call.connects) :
      ClientEnds fuel obj s exchanges none s'

/-- The ends of `Listener::__construct`. -/
inductive ServerEnds (s : Ledger) (exchanges : List (Exchange openssl Ledger)) :
    Outcome PhpQuicListener → Ledger → Prop
  | made {ssl : Ssl} {fd : Fd} {own : SslCtx} {bio : Bio} {adata : QuicAlpnData} {s' : Ledger}
      (inside : s'.inside ssl = {.ctx own} + {.bio bio})
      (owned : acquired exchanges = released exchanges + ({.descriptor fd} + {.ctx own} +
        {.block adata.id} + {.string adata.alpn.id} + ({.ssl ssl} + s'.inside ssl))) :
      ServerEnds s exchanges
        (.ok { ssl := some ssl, ctx := some own, fd := some fd, alpnCbArg := some adata }) s'
  | threw {thrown : Thrown} (balanced : acquired exchanges = released exchanges) :
      ServerEnds s exchanges (.error thrown) s

section Ends

variable {s s' : Ledger} {exchanges : List (Exchange openssl Ledger)}

/-- What a ledger that holds more says of the trace. -/
theorem acquired_of_holds {hand : Multiset Asset} {made : MadeSsl}
    (balance : s.outstanding + acquired exchanges =
      (s.holds hand made).outstanding + released exchanges) :
    acquired exchanges = released exchanges + (hand + Ledger.madeAssets made) := by
  refine add_left_cancel (balance.trans ?_)
  show s.outstanding + (Ledger.madeAssets made + hand) + released exchanges = _
  abel

/-- With an SSL object owned, not all is released. -/
theorem unbalanced_of_owned {others inside : Multiset Asset} {ssl : Ssl}
    (owned : acquired exchanges = released exchanges + (others + ({.ssl ssl} + inside))) :
    acquired exchanges ≠ released exchanges := by
  rw [owned]
  intro same
  have empty := left_eq_add.mp same.symm
  have member : Asset.ssl ssl ∈ others + ({.ssl ssl} + inside) := by simp
  rw [empty] at member
  exact Multiset.notMem_zero _ member

theorem ClientEnds.unbalanced {fuel : Nat} {obj made : PhpQuicConnection}
    (ends : ClientEnds fuel obj s exchanges (some (.ok made)) s') :
    acquired exchanges ≠ released exchanges := by
  cases ends with
  | made _ owned => exact unbalanced_of_owned owned

theorem ClientEnds.balanced {fuel : Nat} {obj : PhpQuicConnection} {thrown : Thrown}
    (ends : ClientEnds fuel obj s exchanges (some (.error thrown)) s') :
    s' = s ∧ acquired exchanges = released exchanges := by
  cases ends with
  | threw balanced => exact ⟨rfl, balanced⟩

theorem ServerEnds.unbalanced {made : PhpQuicListener} (ends : ServerEnds s exchanges (.ok made) s') :
    acquired exchanges ≠ released exchanges := by
  cases ends with
  | made _ owned => exact unbalanced_of_owned owned

theorem ServerEnds.balanced {thrown : Thrown} (ends : ServerEnds s exchanges (.error thrown) s') :
    s' = s ∧ acquired exchanges = released exchanges := by
  cases ends with
  | threw balanced => exact ⟨rfl, balanced⟩

theorem connection_ends {fuel : Nat} {obj : PhpQuicConnection} {host : Bytes} {port : Int}
    {options : Option HashTable} {result : Option (Outcome PhpQuicConnection)}
    (trace : Trace keeping (Connection.construct fuel obj host port options) s exchanges result s') :
    ReleasesOwn s exchanges ∧ ClientEnds fuel obj s exchanges result s' := by
  obtain ⟨own, kept⟩ := (Ledger.construct_keeps_connection fuel obj host port options).trace trace
  have balance := trace_ledger_balance trace own
  refine ⟨own, ?_⟩
  cases kept with
  | made fresh =>
      refine .made Ledger.holds_inside ?_
      rw [Ledger.holds_inside]
      exact acquired_of_holds balance
  | threw thrown => exact .threw (add_left_cancel balance)
  | connecting =>
      have rounds := construct_spins fuel obj host port options 0 _ _
        (trace.counted Call.connects 0) rfl
      rw [Nat.zero_add, Nat.zero_add] at rounds
      exact .connecting rounds

theorem listener_ends {obj : PhpQuicListener} {host : Bytes} {port : Int} {options : HashTable}
    {outcome : Outcome PhpQuicListener}
    (trace : Trace keeping (Listener.construct obj host port options) s exchanges outcome s') :
    ReleasesOwn s exchanges ∧ ServerEnds s exchanges outcome s' := by
  obtain ⟨own, kept⟩ := (Ledger.construct_keeps_listener obj host port options).trace trace
  have balance := trace_ledger_balance trace own
  refine ⟨own, ?_⟩
  cases kept with
  | made fresh =>
      refine .made Ledger.holds_inside ?_
      rw [Ledger.holds_inside, acquired_of_holds balance]
      simp only [Ledger.serverHand, Ledger.heldAlpn, Ledger.heldCtx, Ledger.madeAssets]
      abel
  | threw thrown => exact .threw (add_left_cancel balance)

end Ends

/-- On an established object the client's constructor is an exception and nothing else. -/
theorem construct_established {obj : PhpQuicConnection} (established : obj.ssl.isSome)
    (fuel : Nat) (host : Bytes) (port : Int) (options : Option HashTable) :
    ∃ thrown, Connection.construct fuel obj host port options = pure (some (.error thrown)) := by
  rw [Connection.construct, if_pos established]
  split
  · exact ⟨_, rfl⟩
  split
  · exact ⟨_, rfl⟩
  exact ⟨_, rfl⟩

theorem construct_listening {obj : PhpQuicListener} (established : obj.ssl.isSome)
    (host : Bytes) (port : Int) (options : HashTable) :
    ∃ thrown, Listener.construct obj host port options = pure (.error thrown) := by
  rw [Listener.construct, if_pos established]
  split
  · exact ⟨_, rfl⟩
  split
  · exact ⟨_, rfl⟩
  exact ⟨_, rfl⟩

/-! ### As PHP sees the call -/

/-- The conversions of an option that may run user code: a `__toString`, or a handler of the warning
that an object or an array gives. -/
def Call.converts : Call → Bool
  | .zvalGetLong _ | .zvalGetString _ => true
  | _ => false

/-- The ledger, and whether an exception is pending (`EG(exception)`). -/
structure Construction where
  ledger : Ledger
  exception : Bool

/-- **The environment that keeps the ledger, and whose conversions may leave an exception pending.**
Nothing clears it, and no constructor asks for it. -/
def constructing : Behaviour openssl Construction := fun s call answer s' =>
  keeping s.ledger call answer s'.ledger ∧ (s.exception = true → s'.exception = true) ∧
    (call.converts = false → s'.exception = s.exception)

/-- What a trace does to the ledger. -/
def ledgers (exchanges : List (Exchange openssl Construction)) : List (Exchange openssl Ledger) :=
  exchanges.map (Exchange.map Construction.ledger)

/-- The exchange is a conversion that left an exception pending. -/
def Raises (exchange : Exchange openssl Construction) : Prop :=
  exchange.call.converts = true ∧ exchange.Sets Construction.exception

/-- The branch that sets the fields is taken only if no conversion on the way to it raised. -/
def SetsQuietly {α : Type} (exchanges : List (Exchange openssl Construction))
    (outcome : Outcome α) : Prop :=
  ∀ made, outcome = .ok made → ∀ exchange ∈ exchanges, ¬ Raises exchange

/-- The object after the call. -/
def objectAfter {α : Type} (obj : α) : Outcome α → α
  | .ok made => made
  | .error _ => obj

/-- The call throws: an exception is pending when it is over, its own or one of a conversion. -/
def Throws {α : Type} (outcome : Outcome α) (s' : Construction) : Prop :=
  s'.exception = true ∨ ∃ thrown, outcome = .error thrown

/-- **All or nothing**: a call that returns has set the fields, and they own what `Owns` says; a call
that throws has left the object as it was, and released all it acquired. -/
inductive AllOrNothing {α : Type} (Owns : α → Ledger → Prop) (obj : α) (s : Construction)
    (exchanges : List (Exchange openssl Construction)) : Outcome α → Construction → Prop
  | returned {made : α} {s' : Construction} (quiet : ¬ Throws (.ok made) s')
      (owned : Owns made s'.ledger) : AllOrNothing Owns obj s exchanges (.ok made) s'
  | threw {outcome : Outcome α} {s' : Construction} (throws : Throws outcome s')
      (untouched : objectAfter obj outcome = obj) (before : s'.ledger = s.ledger)
      (balanced : acquired (ledgers exchanges) = released (ledgers exchanges)) :
      AllOrNothing Owns obj s exchanges outcome s'

section Calls

variable {α : Type} {p : Quic α} {s s' : Construction} {value : α}
  {exchanges : List (Exchange openssl Construction)}

theorem ledger_trace (trace : Trace constructing p s exchanges value s') :
    Trace keeping p s.ledger (ledgers exchanges) value s'.ledger :=
  trace.map Construction.ledger fun _ _ _ _ replied => replied.1

/-- An exception is pending at the end exactly if a conversion raised it. -/
theorem pending_iff_raises (trace : Trace constructing p s exchanges value s')
    (calm : s.exception = false) :
    s'.exception = true ↔ ∃ exchange ∈ exchanges, Raises exchange := by
  rw [trace.latched fun _ _ _ _ replied => replied.2.1, calm, or_iff_right Bool.false_ne_true]
  refine exists_congr fun exchange => and_congr_right fun member => ?_
  refine ⟨fun sets => ⟨?_, sets⟩, And.right⟩
  -- Only a conversion changes the flag.
  obtain ⟨-, -, others⟩ := trace.allowed exchange member
  by_contra other
  have same := others (Bool.eq_false_iff.mpr other)
  exact Bool.false_ne_true (sets.1.symm.trans (same.symm.trans sets.2))

/-- **A constructor whose own two ends are right is all-or-nothing exactly if** it sets the fields
with no exception pending: else it throws with the fields set. -/
theorem allOrNothing_iff {Owns : α → Ledger → Prop} {obj : α} {outcome : Outcome α}
    (pending : s'.exception = true ↔ ∃ exchange ∈ exchanges, Raises exchange)
    (sets : ∀ made, outcome = .ok made → Owns made s'.ledger ∧
      acquired (ledgers exchanges) ≠ released (ledgers exchanges))
    (fails : ∀ thrown, outcome = .error thrown → s'.ledger = s.ledger ∧
      acquired (ledgers exchanges) = released (ledgers exchanges)) :
    AllOrNothing Owns obj s exchanges outcome s' ↔ SetsQuietly exchanges outcome := by
  cases outcome with
  | error thrown =>
      obtain ⟨before, balanced⟩ := fails thrown rfl
      exact iff_of_true (.threw (.inr ⟨thrown, rfl⟩) rfl before balanced) nofun
  | ok made =>
      obtain ⟨owned, unbalanced⟩ := sets made rfl
      constructor
      · rintro (⟨quiet, -⟩ | ⟨-, -, -, balanced⟩) _ - exchange member raises
        · exact quiet (.inl (pending.mpr ⟨exchange, member, raises⟩))
        · exact unbalanced balanced
      · intro quietly
        refine .returned ?_ owned
        rintro (raised | ⟨_, failed⟩)
        · obtain ⟨exchange, member, raises⟩ := pending.mp raised
          exact quietly made rfl exchange member raises
        · cases failed

end Calls

/-- What the fields of a new connection own. -/
def ConnectionOwns (fuel : Nat) (obj : PhpQuicConnection) (s : Construction)
    (exchanges : List (Exchange openssl Construction)) (made : PhpQuicConnection)
    (ledger : Ledger) : Prop :=
  ClientEnds fuel obj s.ledger (ledgers exchanges) (some (.ok made)) ledger

/-- What the fields of a new listener own. -/
def ListenerOwns (s : Construction) (exchanges : List (Exchange openssl Construction))
    (made : PhpQuicListener) (ledger : Ledger) : Prop :=
  ServerEnds s.ledger (ledgers exchanges) (.ok made) ledger

/-- One call of the client's constructor. -/
theorem connection_allOrNothing_iff {fuel : Nat} {obj : PhpQuicConnection} {host : Bytes}
    {port : Int} {options : Option HashTable} {s s' : Construction}
    {exchanges : List (Exchange openssl Construction)} {outcome : Outcome PhpQuicConnection}
    (calm : s.exception = false)
    (trace : Trace constructing (Connection.construct fuel obj host port options) s exchanges
      (some outcome) s') :
    AllOrNothing (ConnectionOwns fuel obj s exchanges) obj s exchanges outcome s' ↔
      SetsQuietly exchanges outcome := by
  obtain ⟨-, ends⟩ := connection_ends (ledger_trace trace)
  refine allOrNothing_iff (pending_iff_raises trace calm) ?_ ?_
  · rintro made rfl
    exact ⟨ends, ends.unbalanced⟩
  · rintro thrown rfl
    exact ends.balanced

/-- One call of the listener's constructor. -/
theorem listener_allOrNothing_iff {obj : PhpQuicListener} {host : Bytes} {port : Int}
    {options : HashTable} {s s' : Construction}
    {exchanges : List (Exchange openssl Construction)} {outcome : Outcome PhpQuicListener}
    (calm : s.exception = false)
    (trace : Trace constructing (Listener.construct obj host port options) s exchanges outcome s') :
    AllOrNothing (ListenerOwns s exchanges) obj s exchanges outcome s' ↔
      SetsQuietly exchanges outcome := by
  obtain ⟨-, ends⟩ := listener_ends (ledger_trace trace)
  refine allOrNothing_iff (pending_iff_raises trace calm) ?_ ?_
  · rintro made rfl
    exact ⟨ends, ends.unbalanced⟩
  · rintro thrown rfl
    exact ends.balanced

/-- **When the constructors are all-or-nothing**: exactly if no conversion of an option has left an
exception pending when they come to set the fields. Whatever becomes of a call, it releases what it
acquired itself and nothing twice, and an established object is left alone. -/
theorem constructors_allOrNothing_iff {s : Construction} (calm : s.exception = false) :
    (∀ (fuel : Nat) (obj : PhpQuicConnection) (host : Bytes) (port : Int)
        (options : Option HashTable) (s' : Construction)
        (exchanges : List (Exchange openssl Construction))
        (result : Option (Outcome PhpQuicConnection)),
      Trace constructing (Connection.construct fuel obj host port options) s exchanges result s' →
        ReleasesOwn s.ledger (ledgers exchanges) ∧
        (∀ outcome, result = some outcome →
          (AllOrNothing (ConnectionOwns fuel obj s exchanges) obj s exchanges outcome s' ↔
            SetsQuietly exchanges outcome)) ∧
        (result = none → fuel ≤ exchanges.countP fun exchange => exchange.call.connects) ∧
        (obj.ssl.isSome → exchanges = [] ∧ s' = s ∧ ∃ thrown, result = some (.error thrown))) ∧
      ∀ (obj : PhpQuicListener) (host : Bytes) (port : Int) (options : HashTable)
        (s' : Construction) (exchanges : List (Exchange openssl Construction))
        (outcome : Outcome PhpQuicListener),
      Trace constructing (Listener.construct obj host port options) s exchanges outcome s' →
        ReleasesOwn s.ledger (ledgers exchanges) ∧
        (AllOrNothing (ListenerOwns s exchanges) obj s exchanges outcome s' ↔
          SetsQuietly exchanges outcome) ∧
        (obj.ssl.isSome → exchanges = [] ∧ s' = s ∧ ∃ thrown, outcome = .error thrown) := by
  constructor
  · intro fuel obj host port options s' exchanges result trace
    obtain ⟨own, -⟩ := connection_ends (ledger_trace trace)
    refine ⟨own, ?_, ?_, fun established => ?_⟩
    · rintro outcome rfl
      exact connection_allOrNothing_iff calm trace
    · rintro rfl
      have rounds := construct_spins fuel obj host port options 0 _ _
        (trace.counted Call.connects 0) rfl
      rwa [Nat.zero_add, Nat.zero_add] at rounds
    · obtain ⟨thrown, refused⟩ := construct_established established fuel host port options
      rw [refused] at trace
      obtain ⟨silent, same, unchanged⟩ := trace_pure trace
      exact ⟨silent, unchanged, thrown, same⟩
  · intro obj host port options s' exchanges outcome trace
    obtain ⟨own, -⟩ := listener_ends (ledger_trace trace)
    refine ⟨own, listener_allOrNothing_iff calm trace, fun established => ?_⟩
    obtain ⟨thrown, refused⟩ := construct_listening established host port options
    rw [refused] at trace
    obtain ⟨silent, same, unchanged⟩ := trace_pure trace
    exact ⟨silent, unchanged, thrown, same⟩

/-! ### A connection that is established -/

/-- Nothing is outstanding. -/
def Ledger.empty : Ledger := ⟨0, fun _ => 0⟩

/-- The answer when everything works; an SSL object is only made if it is a new one. -/
def ledgerAnswer (s : Ledger) : (call : Call) → Answer call
  | .sslNew _ | .sslNewListener _ => if s.inside 1 = 0 then some 1 else none
  | call => succeeding call

def ledgerHandler : Handler openssl Ledger := fun s call =>
  (ledgerAnswer s call, s.after call (ledgerAnswer s call))

theorem ledgerHandler_allowed (s : Ledger) (call : Call) :
    keeping s call (ledgerHandler s call).1 (ledgerHandler s call).2 := by
  refine ⟨?_, rfl⟩
  cases call with
  | sslNew ctx | sslNewListener ctx =>
      unfold ledgerHandler ledgerAnswer
      dsimp only
      split
      · assumption
      · trivial
  | _ => trivial

/-- No exception is pending yet. -/
def unraised : Construction := ⟨.empty, false⟩

/-- A handler of warnings that throws: the conversion of an object gives one. -/
def warns : Call → Bool
  | .zvalGetLong (.object ..) => true
  | _ => false

def constructionHandler : Handler openssl Construction := fun s call =>
  ((ledgerHandler s.ledger call).1, ⟨(ledgerHandler s.ledger call).2, s.exception || warns call⟩)

theorem constructionHandler_allowed (s : Construction) (call : Call) :
    constructing s call (constructionHandler s call).1 (constructionHandler s call).2 := by
  refine ⟨ledgerHandler_allowed s.ledger call, fun raised => ?_, fun other => ?_⟩
  · exact Bool.or_eq_true_iff.mpr (.inl raised)
  · have calm : warns call = false := by
      cases call with
      | zvalGetLong => cases other
      | _ => rfl
    exact (congrArg _ calm).trans (Bool.or_false s.exception)

/-- The options `['alpn' => 'h3']`. -/
def alpnOptions : HashTable := [(.name (text "alpn"), .string (text "h3"))]

/-- And `'security_level' => new stdClass`. -/
def objectOptions : HashTable := alpnOptions ++ [(.name (text "security_level"), .object 7 true)]

/-- The constructor of a client, on a fresh object. -/
def constructWith (options : HashTable) : Quic (Option (Outcome PhpQuicConnection)) :=
  Connection.construct 1 quicConnectionCreate (text "host") 443 (some options)

theorem constructWith_trace (options : HashTable) :
    Trace constructing (constructWith options) unraised
      (evaluated constructionHandler (constructWith options) unraised)
      (exec constructionHandler (constructWith options) unraised).1
      (exec constructionHandler (constructWith options) unraised).2 :=
  trace_exec constructionHandler_allowed _ _

/-- Without a conversion the constructor returns, and its fields own the rest. -/
theorem constructors_allOrNothing_example : ∃ exchanges s' made,
    Trace constructing (constructWith alpnOptions) unraised exchanges (some (.ok made)) s' ∧
      made = ⟨some 1, some 3, true, false, none⟩ ∧
      AllOrNothing (ConnectionOwns 1 quicConnectionCreate unraised exchanges) quicConnectionCreate
        unraised exchanges (.ok made) s' := by
  have trace := constructWith_trace alpnOptions
  have quiet : (exec constructionHandler (constructWith alpnOptions) unraised).2.exception = false :=
    rfl
  obtain ⟨-, exact_if, -⟩ := (constructors_allOrNothing_iff rfl).1 _ _ _ _ _ _ _ _ trace
  refine ⟨_, _, _, trace, rfl, (exact_if _ rfl).mpr fun _ _ exchange member raises => ?_⟩
  have raised := (pending_iff_raises trace rfl).mpr ⟨exchange, member, raises⟩
  exact Bool.false_ne_true (quiet.symm.trans raised)

/-- **With a conversion that raises, it throws, and all the fields are set.** -/
theorem constructor_throws_established : ∃ exchanges s' made,
    Trace constructing (constructWith objectOptions) unraised exchanges (some (.ok made)) s' ∧
      Throws (.ok made) s' ∧ made = ⟨some 1, some 3, true, false, none⟩ ∧
      ¬ AllOrNothing (ConnectionOwns 1 quicConnectionCreate unraised exchanges)
        quicConnectionCreate unraised exchanges (.ok made) s' := by
  have trace := constructWith_trace objectOptions
  have raised : (exec constructionHandler (constructWith objectOptions) unraised).2.exception = true :=
    rfl
  refine ⟨_, _, _, trace, .inl raised, rfl, fun whole => ?_⟩
  obtain ⟨exchange, member, raises⟩ := (pending_iff_raises trace rfl).mp raised
  exact (connection_allOrNothing_iff rfl trace).mp whole _ rfl exchange member raises

end PhpQuic
