/-
**Constructors and destructors release what they hold, and nothing anybody depends on.**

* `closesSocket`, `freesSsl`, `freesBlock`, `freesCtx`: the releases of a constructor that fails.
* `construct_careful_connection`, `construct_careful_listener`: a constructor is careful on every
  path. It holds nothing any more when it throws, and the object holds everything when it returns.
* `freeObject_careful`: the destructor of an object without children is careful.
-/

import PhpQuic.Proof.Resources

namespace PhpQuic

open Interact

/-! ### Single releases -/

/-- A careful program. -/
abbrev Carefully {α : Type} (p : Quic α) (post : α → Heap → Prop) (s : Heap) : Prop :=
  Guarded owning Call.Careful p post s

/-- Calls that neither touch the resources nor release a context. -/
def Call.IsPlain : Call → Prop
  | .sslCtxFree _ => False
  | call => call.IsInert

theorem Call.isInert_of_plain (call : Call) (plain : call.IsPlain) : call.IsInert := by
  cases call <;> first | exact plain | exact plain.elim

theorem Call.careful_of_plain (s : Heap) (call : Call) (plain : call.IsPlain) : call.Careful s := by
  cases call <;> first | exact trivial | exact plain.elim

theorem Call.isPlain_of_context (call : Call) (here : call.IsContext) : call.IsPlain := by
  cases call <;> first | exact trivial | exact here.elim

theorem Call.isPlain_of_encoding (call : Call) (here : call.IsEncoding) : call.IsPlain := by
  cases call <;> first | exact trivial | exact here.elim

theorem Call.isPlain_of_throw (call : Call) (here : call.IsThrow) : call.IsPlain := by
  cases call <;> first | exact trivial | exact here.elim

theorem Call.isPlain_of_handshake {ssl : Ssl} (call : Call) (here : call.IsHandshake ssl) :
    call.IsPlain := by
  cases call <;> first | exact trivial | exact here.elim

theorem Call.isPlain_of_certificate (call : Call) (here : call.IsCertificate) :
    call.IsPlain := by
  cases call <;> first | exact trivial | exact here.elim

theorem throwSsl_plain (format : Bytes) : Only Call.IsPlain (phpQuicThrowSsl format) :=
  (phpQuicThrowSsl_calls format).mono Call.isPlain_of_throw

/-- A part of such calls can be skipped. -/
theorem skipPlain {α β : Type} {p : Quic α} {rest : α → Quic β} {post : β → Heap → Prop}
    {s : Heap} (plain : Only Call.IsPlain p) (second : ∀ value, Carefully (rest value) post s) :
    Carefully (p >>= rest) post s :=
  .skip plain Call.careful_of_plain
    (fun _ call _ _ here => owning_inert (call.isInert_of_plain here)) second

section Careful

variable {s s₁ : Heap} {foreign : Resource → Prop} {hand : Holding}
  (accounted : s.Accounted foreign) (grows : s.Grows hand s₁)
include accounted grows

/-- No stored object holds what a constructor holds. -/
theorem noChild_of_held {r : Resource} (has : hand.Has r) : s₁.NoChildOf (·.holding.Has r) := by
  intro id object child held stored own
  rw [grows.spares.object] at stored
  have here := accounted.live stored own
  rw [grows.new r has] at here
  cases here

theorem closesSocket {fd : Fd} (held : hand.fd = some fd) (first : hand.ssl = none) :
    Carefully (ask (.bioClosesocket fd)) (fun _ s' => s.Grows { hand with fd := none } s') s₁ := by
  have here : hand.Has (.descriptor fd) := held
  refine .ask ⟨(grows.live_iff _).mpr (.inr here), noChild_of_held accounted grows here, ?_⟩ ?_
  · -- What was in use before has another, open descriptor in its BIO.
    intro ssl engine socket used bio
    have live : s₁.live (.ssl ssl) = true := Option.isSome_iff_exists.mpr ⟨engine, used⟩
    have before := ((grows.live_iff _).mp live).resolve_right fun own => nomatch first.symm.trans own
    obtain ⟨engine', there⟩ := Option.isSome_iff_exists.mp before
    obtain rfl := Option.some.inj (used.symm.trans (grows.spares.engine ssl engine' there))
    obtain ⟨other, socket', same, opened⟩ := accounted.engine_open there
    obtain ⟨rfl, rfl⟩ := Prod.mk.inj (Option.some.inj (bio.symm.trans same))
    have closed := grows.new _ here
    simp [Heap.live, opened] at closed
  · intro _ s' replied
    obtain rfl : s' = _ := replied
    exact grows.closeFd held

theorem freesSsl :
    Carefully (freeSsl hand.ssl) (fun _ s' => s.Grows { hand with ssl := none } s') s₁ := by
  obtain ⟨ssl, fd, block⟩ := hand
  cases ssl with
  | none => exact .pure grows
  | some ssl =>
      have here : (Holding.mk (some ssl) fd block).Has (.ssl ssl) := rfl
      refine .ask ⟨(grows.live_iff _).mpr (.inr here), noChild_of_held accounted grows here, ?_⟩ ?_
      · intro other used
        rcases (grows.live_iff _).mp used with before | own
        · have owned := accounted.owned before
          unfold Heap.Owned at owned
          rw [← grows.spares.object] at owned
          exact .inr owned
        · exact .inl (Option.some.inj own).symm
      · intro _ s' replied
        obtain rfl : s' = _ := replied
        exact grows.dropSsl rfl

theorem freesBlock {data : QuicAlpnData} (held : hand.block = some data.id) :
    Carefully (freeAlpnData (some data)) (fun _ s' => s.Grows { hand with block := none } s') s₁ := by
  have here : hand.Has (.block data.id) := held
  refine skipPlain (.call trivial) fun _ => .ask ?_ fun _ s' replied => ?_
  · exact ⟨(grows.live_iff _).mpr (.inr here), noChild_of_held accounted grows here⟩
  · obtain rfl : s' = _ := replied
    exact grows.dropBlock held

/-- A context that was not in use is not that of a stored listener. -/
theorem freesCtx {ctx : Option SslCtx} (unused : ∀ c ∈ ctx, s.CtxUnused c) :
    Carefully (freeCtx ctx) (fun _ s' => s.Grows hand s') s₁ := by
  cases ctx with
  | none => exact .pure grows
  | some ctx =>
      refine .ask ?_ fun _ s' replied => ?_
      · rintro id object child held stored ⟨obj, rfl, here⟩
        rw [grows.spares.object] at stored
        exact absurd (unused ctx rfl) (accounted.ctx_used stored here)
      · obtain rfl : s' = s₁ := replied
        exact grows

end Careful

/-! ### Sockets -/

section Sockets

variable {s s₁ : Heap} {foreign : Resource → Prop} (accounted : s.Accounted foreign)
include accounted

/-- The client's address loop closes every socket it does not return. -/
theorem udpClientLoop_careful (res : List AddrInfo) (grows : s.Grows .empty s₁) :
    Carefully (udpClientLoop none res) (fun found s' =>
      s.Grows ⟨none, found.1, none⟩ s' ∧ (found.2 = none → found.1 = none)) s₁ := by
  induction res generalizing s₁ with
  | nil => exact .pure ⟨grows, fun _ => rfl⟩
  | cons ai next ih =>
      refine .ask_bind trivial fun made s₂ replied => ?_
      cases made with
      | none =>
          obtain rfl : s₂ = s₁ := replied
          exact ih grows
      | some sock =>
          obtain ⟨closed, rfl⟩ := replied
          have opened := grows.openFd closed rfl
          have retry : Carefully (do
              ask (.bioClosesocket sock)
              udpClientLoop none next) (fun found s' =>
                s.Grows ⟨none, found.1, none⟩ s' ∧ (found.2 = none → found.1 = none))
              (s₁.openFd sock) :=
            .bind (closesSocket accounted opened rfl rfl) fun _ _ kept => ih kept
          refine skipPlain (.call trivial) fun _ => .ite (fun _ => retry) fun _ => ?_
          refine skipPlain (.call trivial) fun _ => .ite (fun _ => retry) fun _ => ?_
          exact .pure ⟨opened, nofun⟩

theorem udpClientPeer_careful (host port : Bytes) {found : Option Fd × Option AddrInfo}
    (grows : s.Grows ⟨none, found.1, none⟩ s₁) (both : found.2 = none → found.1 = none) :
    Carefully (udpClientPeer host port found)
      (fun result s' => s.Grows ⟨none, result.toOption.map Prod.fst, none⟩ s') s₁ := by
  rcases found with ⟨_ | sock, _ | ai⟩
  · exact .pure grows
  · exact .pure grows
  · cases both rfl
  · refine skipPlain (.call trivial) fun copied => ?_
    cases copied with
    | none => exact .bind (closesSocket accounted grows rfl rfl) fun _ _ kept => .pure kept
    | some peer => exact .pure grows

theorem phpQuicUdpClient_careful (host port : Bytes) :
    Carefully (phpQuicUdpClient host port)
      (fun result s' => s.Grows ⟨none, result.toOption.map Prod.fst, none⟩ s') s := by
  refine skipPlain (.call trivial) fun found => ?_
  cases found with
  | none => exact .pure (.refl s)
  | some res =>
      refine .bind (udpClientLoop_careful accounted res (.refl s)) fun ended s₁ ⟨grows, both⟩ => ?_
      refine .bind (udpClientPeer_careful accounted host port grows both) fun result s₂ kept => ?_
      exact skipPlain (.call trivial) fun _ => .pure kept

/-- The server's address loop closes every socket it does not return. -/
theorem udpServerLoop_careful (reusePort : Bool) (res : List AddrInfo)
    (grows : s.Grows .empty s₁) :
    Carefully (udpServerLoop reusePort none res)
      (fun found s' => s.Grows ⟨none, found.1, none⟩ s') s₁ := by
  induction res generalizing s₁ with
  | nil => exact .pure grows
  | cons ai next ih =>
      refine .ask_bind trivial fun made s₂ replied => ?_
      cases made with
      | none =>
          obtain rfl : s₂ = s₁ := replied
          exact ih grows
      | some sock =>
          obtain ⟨closed, rfl⟩ := replied
          have opened := grows.openFd closed rfl
          have retry : Carefully (do
              ask (.bioClosesocket sock)
              udpServerLoop reusePort none next)
              (fun found s' => s.Grows ⟨none, found.1, none⟩ s') (s₁.openFd sock) :=
            .bind (closesSocket accounted opened rfl rfl) fun _ _ kept => ih kept
          have shares : Only Call.IsPlain (udpShareAddress reusePort sock) :=
            .ite (.call trivial) (.pure _)
          refine skipPlain shares fun _ => .ite (fun _ => retry) fun _ => ?_
          refine skipPlain (.call trivial) fun _ => .ite (fun _ => retry) fun _ => ?_
          refine skipPlain (.call trivial) fun _ => .ite (fun _ => retry) fun _ => ?_
          exact .pure opened

theorem phpQuicUdpServer_careful (host port : Bytes) (reusePort : Bool) :
    Carefully (phpQuicUdpServer host port reusePort)
      (fun result s' => s.Grows ⟨none, result.toOption, none⟩ s') s := by
  refine skipPlain (.call trivial) fun found => ?_
  cases found with
  | none => exact .pure (.refl s)
  | some res =>
      refine .bind (udpServerLoop_careful accounted reusePort res (.refl s)) ?_
      rintro ⟨sock, ai⟩ s₁ grows
      refine skipPlain (.call trivial) fun _ => ?_
      cases sock with
      | none => exact .pure grows
      | some sock => exact .pure grows

end Sockets

/-! ### The client's constructor -/

theorem noCtx_unused (s : Heap) : ∀ c ∈ (none : Option SslCtx), s.CtxUnused c :=
  fun c member => absurd member (Option.not_mem_none c)

section Client

variable {s s₁ : Heap} {foreign : Resource → Prop} (accounted : s.Accounted foreign)
include accounted

theorem connectionCleanup_careful {ssl : Option Ssl} {fd : Fd} {ctx : Option SslCtx}
    (unused : ∀ c ∈ ctx, s.CtxUnused c) (alpn : ZendString) (peer : BioAddr)
    (grows : s.Grows ⟨ssl, some fd, none⟩ s₁) :
    Carefully (Connection.cleanup alpn peer ssl ctx fd) (fun _ s' => s.Grows .empty s') s₁ := by
  refine skipPlain (.call trivial) fun _ => skipPlain (.call trivial) fun _ => ?_
  refine .bind (freesSsl accounted grows) fun _ s₂ kept => ?_
  refine .bind (freesCtx accounted kept unused) fun _ s₃ kept => ?_
  exact closesSocket accounted kept rfl rfl

theorem connectionError_careful {ssl : Option Ssl} {fd : Fd} {ctx : Option SslCtx}
    (unused : ∀ c ∈ ctx, s.CtxUnused c) (alpn : ZendString) (peer : BioAddr)
    (grows : s.Grows ⟨ssl, some fd, none⟩ s₁) :
    Carefully (Connection.sslError alpn peer ssl ctx fd) (fun _ s' => s.Grows .empty s') s₁ :=
  skipPlain (throwSsl_plain _) fun _ =>
    .bind (connectionCleanup_careful accounted unused alpn peer grows) fun _ _ kept => .pure kept

omit accounted in
theorem prepareSsl_careful {ssl : Ssl} {fd : Fd} (alpn : ZendString) (peer : BioAddr) (host : Bytes)
    (setup : PhpQuicTlsSetup) (grows : s.Grows ⟨some ssl, some fd, none⟩ s₁) :
    Carefully (Connection.prepareSsl ssl fd alpn peer host setup)
      (fun _ s' => s.Grows ⟨some ssl, some fd, none⟩ s') s₁ := by
  refine .ask_bind trivial fun bio s₂ made => ?_
  cases bio with
  | none =>
      obtain rfl : s₂ = s₁ := made
      exact .pure grows
  | some bio =>
      obtain rfl : s₂ = _ := made
      refine .ask_bind trivial fun _ s₃ set => ?_
      obtain rfl : s₃ = _ := set
      have kept := grows.setBio rfl fd bio
      have names : Only Call.IsPlain
          (Connection.setExpectedHost ssl setup (setup.peerName.getD host)) :=
        .ite (.call trivial) (.pure _)
      have indicates : Only Call.IsPlain
          (Connection.setServerName ssl setup (setup.peerName.getD host)) :=
        .ite (.call trivial) (.pure _)
      refine skipPlain (.call trivial) fun _ => .ite (fun _ => .pure kept) fun _ => ?_
      refine skipPlain (.call trivial) fun _ => .ite (fun _ => .pure kept) fun _ => ?_
      refine skipPlain names fun _ => .ite (fun _ => .pure kept) fun _ => ?_
      exact skipPlain indicates fun _ => .pure kept

/-- What the object a finished client constructor made releases. -/
def Heap.GrowsClient (s : Heap) (result : Option (Outcome PhpQuicConnection)) (s' : Heap) : Prop :=
  ∀ outcome, result = some outcome →
    s.Grows (.ofMade ((madeBy outcome).map .connection)) s'

omit accounted in
theorem Heap.GrowsClient.of_error {s' : Heap} (grows : s.Grows .empty s') (thrown : Thrown) :
    s.GrowsClient (some (.error thrown)) s' := by
  intro outcome same
  obtain rfl := Option.some.inj same
  exact grows

theorem establish_careful {ssl : Ssl} {fd : Fd} (fuel : Nat) (obj : PhpQuicConnection)
    (alpn : ZendString) (peer : BioAddr) (host : Bytes) (port idleTimeoutMs connectTimeoutMs : Int)
    (options : Option HashTable) (setup : PhpQuicTlsSetup)
    (grows : s.Grows ⟨some ssl, some fd, none⟩ s₁) :
    Carefully (Connection.establish fuel obj ssl fd alpn peer host port idleTimeoutMs
      connectTimeoutMs options setup) s.GrowsClient s₁ := by
  refine .bind (prepareSsl_careful alpn peer host setup grows) fun ok s₂ kept => ?_
  have cleaned (thrown : Thrown) : Carefully (do
      Connection.cleanup alpn peer (some ssl) none fd
      return some (.error thrown)) s.GrowsClient s₂ :=
    .bind (connectionCleanup_careful accounted (noCtx_unused s) alpn peer kept) fun _ _ gone =>
      .pure (.of_error gone thrown)
  refine .ite (fun _ => ?_) fun _ => ?_
  · exact .bind (connectionError_careful accounted (noCtx_unused s) alpn peer kept) fun thrown _ gone =>
      .pure (.of_error gone thrown)
  have idle : Only Call.IsPlain (Connection.requestIdleTimeout ssl idleTimeoutMs) :=
    .ite (.call trivial) (.pure _)
  have configured : Only Call.IsPlain (phpQuicConnectionConfigure ssl) :=
    .bind (.call trivial) fun _ => .call trivial
  have shakes : Only Call.IsPlain
      (Connection.handshake fuel ssl fd host port connectTimeoutMs) := by
    refine (handshake_calls fuel ssl fd host port connectTimeoutMs).mono fun call here => ?_
    exact here.elim (call.isPlain_of_handshake) (call.isPlain_of_throw)
  refine skipPlain idle fun _ => skipPlain configured fun _ => skipPlain shakes fun shaken => ?_
  match shaken with
  | none => exact .pure nofun
  | some (.error thrown) => exact cleaned thrown
  | some (.ok ()) =>
      refine skipPlain ((checkPinning_calls ssl options).mono Call.isPlain_of_certificate)
        fun pinned => ?_
      cases pinned with
      | error thrown => exact cleaned thrown
      | ok _ =>
          refine skipPlain (.call trivial) fun _ => skipPlain (.call trivial) fun _ => .pure ?_
          intro outcome same
          obtain rfl := Option.some.inj same
          exact kept

theorem createSsl_careful {fd : Fd} (fuel : Nat) (obj : PhpQuicConnection) (alpn : ZendString)
    (peer : BioAddr) (host : Bytes) (port idleTimeoutMs connectTimeoutMs : Int)
    (options : Option HashTable) (grows : s.Grows ⟨none, some fd, none⟩ s₁) :
    Carefully (Connection.createSsl fuel obj fd alpn peer host port idleTimeoutMs
      connectTimeoutMs options) s.GrowsClient s₁ := by
  refine .ask_bind trivial fun made s₂ replied => ?_
  cases made with
  | none =>
      obtain rfl : s₂ = s₁ := replied
      exact .bind (connectionError_careful accounted (noCtx_unused s) alpn peer grows)
        fun thrown _ gone => .pure (.of_error gone thrown)
  | some ctx =>
  obtain ⟨unheld, rfl⟩ := replied
  have free := grows.spares.ctxUnused unheld
  have unused : ∀ c ∈ some ctx, s.CtxUnused c := fun c same => Option.some.inj same ▸ free
  have kept := grows.setAlpnArg free none
  refine skipPlain ((phpQuicConfigureCtx_calls ctx options false).mono Call.isPlain_of_context)
    fun configured => ?_
  cases configured with
  | error errbuf =>
      refine skipPlain (phpQuicThrow_calls _ _) fun thrown => ?_
      exact .bind (connectionCleanup_careful accounted unused alpn peer kept)
        fun _ _ gone => .pure (.of_error gone thrown)
  | ok setup =>
  refine .ask_bind trivial fun made s₃ replied => ?_
  cases made with
  | none =>
      obtain rfl : s₃ = _ := replied
      exact .bind (connectionError_careful accounted unused alpn peer kept)
        fun thrown _ gone => .pure (.of_error gone thrown)
  | some ssl =>
      obtain ⟨new, rfl⟩ := replied
      refine .bind (freesCtx accounted (kept.makeSsl new rfl ⟨none, ctx⟩) unused)
        fun _ _ kept => ?_
      exact establish_careful accounted fuel obj alpn peer host port idleTimeoutMs
        connectTimeoutMs options setup kept

/-- **`Connection::__construct` is careful**; it holds nothing when it throws. -/
theorem construct_careful_connection (fuel : Nat) (obj : PhpQuicConnection) (host : Bytes)
    (port : Int) (options : Option HashTable) :
    Carefully (Connection.construct fuel obj host port options) s.GrowsClient s := by
  have refused (thrown : Thrown) : Carefully
      (return some (.error thrown) : Quic (Option (Outcome PhpQuicConnection))) s.GrowsClient s :=
    .pure (.of_error (.refl s) thrown)
  refine .ite (fun _ => skipPlain (phpQuicThrow_calls _ _) refused) fun _ =>
    .ite (fun _ => skipPlain (phpQuicThrow_calls _ _) refused) fun _ =>
    .ite (fun _ => skipPlain (phpQuicThrow_calls _ _) refused) fun _ => ?_
  refine skipPlain ((readOptions_context options).mono Call.isPlain_of_context)
    fun ⟨spec, idle, timeout⟩ => ?_
  cases spec with
  | none => exact skipPlain (phpQuicThrow_calls _ _) refused
  | some spec =>
  refine skipPlain ((phpQuicAlpnFromZval_calls spec).mono Call.isPlain_of_encoding)
    fun alpn => ?_
  cases alpn with
  | error errbuf => exact skipPlain (phpQuicThrow_calls _ _) refused
  | ok alpn =>
  refine .bind (phpQuicUdpClient_careful accounted host _) fun socket s₁ grows => ?_
  match socket with
  | .error errbuf =>
      exact skipPlain (.call trivial) fun _ => skipPlain (phpQuicThrow_calls _ _) fun thrown =>
        .pure (.of_error grows thrown)
  | .ok (fd, peer) =>
      exact createSsl_careful accounted fuel obj alpn peer host port idle timeout options grows

end Client

/-! ### The listener's constructor -/

section Server

variable {s s₁ : Heap} {foreign : Resource → Prop} (accounted : s.Accounted foreign)
include accounted

/-- The callback data a listener's constructor has to release. -/
def Listener.AlpnOwner.block : Listener.AlpnOwner → Option Nat
  | .string _ => none
  | .data adata => some adata.id

theorem listenerCleanup_careful (owner : Listener.AlpnOwner) {ssl : Option Ssl} {fd : Fd}
    {ctx : Option SslCtx} (unused : ∀ c ∈ ctx, s.CtxUnused c)
    (grows : s.Grows ⟨ssl, some fd, owner.block⟩ s₁) :
    Carefully (Listener.cleanup owner ssl ctx fd) (fun _ s' => s.Grows .empty s') s₁ := by
  have releases : Carefully (Listener.releaseAlpn owner)
      (fun _ s' => s.Grows ⟨ssl, some fd, none⟩ s') s₁ := by
    cases owner with
    | string alpn => exact .ask trivial fun _ _ replied => replied ▸ grows
    | data adata => exact freesBlock accounted grows rfl
  refine .bind releases fun _ s₂ kept => .bind (freesSsl accounted kept) fun _ s₃ kept => ?_
  refine .bind (freesCtx accounted kept unused) fun _ s₄ kept => ?_
  exact closesSocket accounted kept rfl rfl

theorem listenerError_careful (owner : Listener.AlpnOwner) {ssl : Option Ssl} {fd : Fd}
    {ctx : Option SslCtx} (unused : ∀ c ∈ ctx, s.CtxUnused c)
    (grows : s.Grows ⟨ssl, some fd, owner.block⟩ s₁) :
    Carefully (Listener.sslError owner ssl ctx fd) (fun _ s' => s.Grows .empty s') s₁ :=
  skipPlain (throwSsl_plain _) fun _ =>
    .bind (listenerCleanup_careful accounted owner unused grows) fun _ _ kept => .pure kept

/-- What the object a finished listener constructor made releases. -/
def Heap.GrowsServer (s : Heap) (outcome : Outcome PhpQuicListener) (s' : Heap) : Prop :=
  s.Grows (.ofMade ((madeBy outcome).map .listener)) s'

theorem startListening_careful {fd : Fd} {ctx : SslCtx} (free : s.CtxUnused ctx)
    (alpn : ZendString) (host : Bytes) (port : Int) (grows : s.Grows ⟨none, some fd, none⟩ s₁) :
    Carefully (Listener.startListening fd ctx alpn host port) s.GrowsServer s₁ := by
  have unused : ∀ c ∈ some ctx, s.CtxUnused c := fun c same => Option.some.inj same ▸ free
  refine .ask_bind trivial fun id s₂ replied => ?_
  obtain ⟨unallocated, rfl⟩ := replied
  refine .ask_bind trivial fun _ s₃ registered => ?_
  obtain rfl : s₃ = _ := registered
  have held := (grows.allocate unallocated rfl).setAlpnArg free (some id)
  have failed {ssl : Option Ssl} {s₄ : Heap} (kept : s.Grows ⟨ssl, some fd, some id⟩ s₄) :
      Carefully (do
        return .error (← Listener.sslError (.data ⟨id, alpn⟩) ssl (some ctx) fd)) s.GrowsServer s₄ :=
    .bind (listenerError_careful accounted (.data ⟨id, alpn⟩) unused kept)
      fun thrown _ gone => .pure gone
  refine .ask_bind trivial fun made s₄ replied => ?_
  cases made with
  | none =>
      obtain rfl : s₄ = _ := replied
      exact failed held
  | some ssl =>
  obtain ⟨new, rfl⟩ := replied
  have held := held.makeSsl new rfl ⟨none, ctx⟩
  refine .ask_bind trivial fun made s₅ replied => ?_
  cases made with
  | none =>
      obtain rfl : s₅ = _ := replied
      exact failed held
  | some bio =>
  obtain rfl : s₅ = _ := replied
  refine .ask_bind trivial fun _ s₆ set => ?_
  obtain rfl : s₆ = _ := set
  have held := held.setBio rfl fd bio
  refine skipPlain (.call trivial) fun listens => .ite (fun _ => ?_) fun _ => .pure held
  refine skipPlain (throwSsl_plain _) fun thrown => ?_
  exact .bind (listenerCleanup_careful accounted (.data ⟨id, alpn⟩) unused held)
    fun _ _ gone => .pure gone

/-- **`Listener::__construct` is careful**; it holds nothing when it throws. -/
theorem construct_careful_listener (obj : PhpQuicListener) (host : Bytes) (port : Int)
    (options : HashTable) :
    Carefully (Listener.construct obj host port options) s.GrowsServer s := by
  have refused (format : Bytes) : Carefully
      (throwing (phpQuicThrow format) : Quic (Outcome PhpQuicListener)) s.GrowsServer s :=
    skipPlain (phpQuicThrow_calls _ _) fun _ => .pure (.refl s)
  refine .ite (fun _ => refused _) fun _ => .ite (fun _ => refused _) fun _ =>
    .ite (fun _ => refused _) fun _ => ?_
  dsimp only
  split
  · exact refused _
  rename_i spec _
  refine skipPlain ((phpQuicAlpnFromZval_calls spec).mono Call.isPlain_of_encoding)
    fun alpn => ?_
  cases alpn with
  | error errbuf => exact refused _
  | ok alpn =>
  refine .bind (phpQuicUdpServer_careful accounted host _ _) fun socket s₁ grows => ?_
  cases socket with
  | error errbuf =>
      exact skipPlain (.call trivial) fun _ => skipPlain (phpQuicThrow_calls _ _) fun _ =>
        .pure grows
  | ok fd =>
  refine .ask_bind trivial fun made s₂ replied => ?_
  cases made with
  | none =>
      obtain rfl : s₂ = s₁ := replied
      exact .bind (listenerError_careful accounted (.string alpn) (noCtx_unused s) grows)
        fun _ _ gone => .pure gone
  | some ctx =>
  obtain ⟨unheld, rfl⟩ := replied
  have free := grows.spares.ctxUnused unheld
  have unused : ∀ c ∈ some ctx, s.CtxUnused c := fun c same => Option.some.inj same ▸ free
  have kept := grows.setAlpnArg free none
  refine skipPlain ((phpQuicConfigureCtx_calls ctx (some options) true).mono
    Call.isPlain_of_context) fun configured => ?_
  cases configured with
  | error errbuf =>
      refine skipPlain (phpQuicThrow_calls _ _) fun _ => ?_
      exact .bind (listenerCleanup_careful accounted (.string alpn) unused kept)
        fun _ _ gone => .pure gone
  | ok _ => exact startListening_careful accounted free alpn host port kept

end Server

/-! ### The destructors -/

section Destroy

variable {s : Heap} {foreign : Resource → Prop} (accounted : s.Accounted foreign) {id : ObjectId}
  {object : QuicObject} (stored : s.object id = some object) (childless : s.children id = 0)
include accounted stored childless

theorem noChild_of_stored {r : Resource} (has : object.holding.Has r) :
    s.NoChildOf (·.holding.Has r) := by
  intro other held child below there own present
  have same : other = id := by
    by_contra different
    exact (accounted.valid.apart other held id object there stored different).has has own
  rw [same]
  exact Heap.parent_ne_of_childless childless present
    (accounted.valid.bounded child below present)

/-- Two listeners have two contexts: the callback data on a context is that of one listener. -/
theorem noChild_of_ctx {obj : PhpQuicListener} (same : object = .listener obj) {ctx : SslCtx}
    (here : obj.ctx = some ctx) :
    s.NoChildOf fun object => ∃ obj, object = .listener obj ∧ obj.ctx = some ctx := by
  subst same
  rintro other _ child below there ⟨obj', rfl, here'⟩ present
  have same : other = id := by
    by_contra different
    have apart := accounted.valid.apart other _ id _ there stored different
    rcases accounted.valid.fits id _ stored with rfl | ⟨_, _, _, _, data, rfl, _, _, one, _⟩
    · cases here
    rcases accounted.valid.fits other _ there with rfl | ⟨_, _, _, _, data', rfl, _, _, two, _⟩
    · cases here'
    obtain rfl := Option.some.inj here
    obtain rfl := Option.some.inj here'
    exact apart.ownAlpn data.id rfl (two.symm.trans one)
  rw [same]
  exact Heap.parent_ne_of_childless childless present
    (accounted.valid.bounded child below present)

/-- Behind the SSL object of the released one, no SSL object has a BIO on its descriptor. -/
theorem bio_elsewhere {fd : Fd} (own : object.ownFd = some fd) {ssl : Ssl} {engine : Engine}
    (here : (s.dropSsl object.ssl).engine ssl = some engine) (socket : Nat) :
    engine.bio ≠ some (fd, socket) := by
  intro bio
  have other : object.ssl ≠ some ssl := by
    intro same
    rw [same] at here
    have gone : Function.update s.engine ssl none ssl = none := Function.update_self ssl none s.engine
    cases gone.symm.trans here
  rw [s.dropSsl_engine_of_ne other] at here
  obtain ⟨above, held, there, holds⟩ := accounted.owner here
  have distinct : above ≠ id := by
    rintro rfl
    obtain rfl := Option.some.inj (stored.symm.trans there)
    exact other holds
  -- Without the released object everything is sound, and its descriptor is closed.
  have frees := Heap.Frees.of_release s id object none
  have after : ((s.release object).setObject id none).Valid :=
    accounted.valid.free stored childless nofun
  obtain ⟨fd', socket', ctx, kept, _, opened, _⟩ :=
    after.sound above held ssl ((frees.object above distinct).trans there) holds
  obtain rfl := Option.some.inj (((frees.engine ssl other).trans here).symm.trans kept)
  obtain ⟨rfl, rfl⟩ := Prod.mk.inj (Option.some.inj bio)
  have closed : (s.release object).table fd' = none := s.release_closes own
  cases closed.symm.trans opened

theorem freeSsl_careful :
    Carefully (freeSsl object.ssl) (fun _ s' => s' = s.dropSsl object.ssl) s := by
  cases own : object.ssl with
  | none => exact .pure rfl
  | some ssl =>
      have has : object.holding.Has (.ssl ssl) := own
      exact .ask ⟨accounted.live stored has, noChild_of_stored accounted stored childless has,
        fun _ used => .inr (accounted.owned used)⟩ fun _ _ replied => replied

theorem closeSocket_careful : Carefully (closeSocket object.ownFd)
    (fun _ s' => s' = (s.dropSsl object.ssl).dropFd object.ownFd) (s.dropSsl object.ssl) := by
  cases own : object.ownFd with
  | none => exact .pure rfl
  | some fd =>
      have has : object.holding.Has (.descriptor fd) := own
      have live := accounted.live stored has
      have noChild := noChild_of_stored accounted stored childless has
      refine .ask ⟨?_, ?_, fun ssl engine socket here => ?_⟩ fun _ _ replied => replied
      · cases object.ssl <;> exact live
      · cases object.ssl <;> exact noChild
      · exact bio_elsewhere accounted stored childless own here socket

omit accounted stored childless in
theorem freeCtx_careful {ctx : Option SslCtx} {s₁ : Heap} (noChild : ∀ c, ctx = some c →
    s₁.NoChildOf fun object => ∃ obj, object = .listener obj ∧ obj.ctx = some c) :
    Carefully (freeCtx ctx) (fun _ s' => s' = s₁) s₁ := by
  cases ctx with
  | none => exact .pure rfl
  | some ctx => exact .ask (noChild ctx rfl) fun _ _ replied => replied

omit stored childless in
theorem listenerRelease_careful {obj : PhpQuicListener}
    (stored : s.object id = some (.listener obj)) (childless : s.children id = 0) :
    Carefully (quicListenerRelease obj) (fun _ _ => True) s := by
  refine .bind (freeSsl_careful accounted stored childless) fun _ s₁ first => ?_
  subst first
  refine .bind (closeSocket_careful accounted stored childless) fun _ s₂ second => ?_
  subst second
  have kept : ∀ {owner : QuicObject → Prop}, s.NoChildOf owner →
      ((s.dropSsl obj.ssl).dropFd obj.fd).NoChildOf owner := by
    intro owner noChild
    cases obj.ssl <;> cases obj.fd <;> exact noChild
  refine .bind (freeCtx_careful fun ctx here =>
    kept (noChild_of_ctx accounted stored childless rfl here)) fun _ s₃ same => ?_
  subst same
  have frees : Carefully (freeAlpnData obj.alpnCbArg) (fun _ _ => True)
      ((s.dropSsl obj.ssl).dropFd obj.fd) := by
    cases own : obj.alpnCbArg with
    | none => exact .pure trivial
    | some data =>
        have has : (QuicObject.listener obj).holding.Has (.block data.id) :=
          congrArg (Option.map QuicAlpnData.id) own
        have live := accounted.live stored has
        have noChild := noChild_of_stored accounted stored childless has
        refine skipPlain (.call trivial) fun _ => .ask ⟨?_, kept noChild⟩ fun _ _ _ => trivial
        cases obj.ssl <;> cases obj.fd <;> exact live
  exact .bind frees fun _ _ _ => .pure trivial

/-- **The destructor of an object without children is careful.** -/
theorem freeObject_careful : Carefully (freeObject object) (fun _ _ => True) s := by
  cases object with
  | connection obj =>
      refine .bind (freeSsl_careful accounted stored childless) fun _ s₁ first => ?_
      subst first
      refine .bind (closeSocket_careful accounted stored childless) fun _ s₂ second => ?_
      cases obj.listener with
      | none => exact .pure trivial
      | some above => exact .ask trivial fun _ _ _ => trivial
  | listener obj =>
      exact .bind (listenerRelease_careful accounted stored childless) fun _ _ _ => .pure trivial
  | stream obj =>
      refine .bind (freeSsl_careful accounted stored childless) fun _ s₁ first => ?_
      cases obj.connection with
      | none => exact .pure trivial
      | some above => exact .ask trivial fun _ _ _ => trivial
  | foreign => exact .pure trivial

end Destroy

end PhpQuic
