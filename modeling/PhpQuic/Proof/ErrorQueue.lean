/-
**OpenSSL's error queue: which operation an exception message speaks of.**

The queue of one thread is kept by `errorQueue`: any call may append errors, stamped with the number
of the running operation; `ERR_get_error` takes the oldest, `ERR_clear_error` takes all.

* `Accounted`: a program either leaves the queue with what was there before and new errors behind
  it, or reports the first entry of that queue and leaves nothing of it.
* `operation_accounted`: every entry point of the extension is accounted for.
* `reports_own_iff`: in every sequence of operations that starts with an empty queue, all reports
  speak of their own operation exactly when every reporting operation started with an empty queue,
  that is, when no operation before it left an error behind.
-/

import PhpQuic.Openssl.Environment
import PhpQuic.Proof.Calls
import PhpQuic.Source.Operation
import PhpQuic.Interact.Transition

namespace PhpQuic

open Interact

/-! ### The queue -/

/-- The error queue of the thread, oldest entry first, and the number of the running operation. -/
structure Thread where
  queue : List ErrEntry
  operation : Nat
  deriving DecidableEq

/-- What a call may do to the queue. -/
def errorQueue (s : Thread) : (call : Call) → Answer call → Thread → Prop
  | .errGetError, entry, s' => entry = s.queue.head? ∧ s' = { s with queue := s.queue.tail }
  | .errClearError, _, s' => s' = { s with queue := [] }
  | _, _, s' => ∃ new, s' = { s with queue := s.queue ++ new } ∧
      ∀ entry ∈ new, entry.operation = s.operation

/-- The calls that do not look at the queue themselves. -/
def Call.IsOrdinary : Call → Prop
  | .errGetError | .errClearError => False
  | _ => True

/-- New errors of the running operation, behind the old ones. -/
def Grown (s s' : Thread) : Prop :=
  ∃ new, s' = { s with queue := s.queue ++ new } ∧ ∀ entry ∈ new, entry.operation = s.operation

/-- A queue to which nothing was added has grown. -/
theorem Grown.refl (s : Thread) : Grown s s :=
  ⟨[], by rw [List.append_nil], fun _ => (absurd · List.not_mem_nil)⟩

theorem Grown.trans {s₁ s₂ s₃ : Thread} (first : Grown s₁ s₂) (second : Grown s₂ s₃) :
    Grown s₁ s₃ := by
  obtain ⟨new, rfl, own⟩ := first
  obtain ⟨more, rfl, own'⟩ := second
  refine ⟨new ++ more, by rw [List.append_assoc], fun entry member => ?_⟩
  exact (List.mem_append.mp member).elim (own entry) (own' entry)

/-- **By the frame rule, a program that does not look at the queue only adds to it.** -/
theorem grown_of_ordinary {α : Type} {p : Quic α} (ordinary : Only Call.IsOrdinary p) {s s' : Thread}
    {value : α} (run : Run errorQueue p s value s') : Grown s s' := by
  refine run.frame ordinary Grown.refl (fun _ _ _ => Grown.trans) fun s call answer s' here moved => ?_
  cases call with
  | errGetError => exact here.elim
  | errClearError => exact here.elim
  | _ => exact moved

/-! ### Accounting for the errors of a program -/

/-- What becomes of the queue: it grows, or its first entry is reported and it is emptied. -/
def Account (s : Thread) : Option ErrEntry → Thread → Prop
  | none, s' => Grown s s'
  | some entry, s' => ∃ middle, Grown s middle ∧ middle.queue.head? = some entry ∧
      Grown { s with queue := [] } s'

/-- Every run of the program accounts for the queue by the entry its value quotes. -/
def Accounted {α : Type} (quoted : α → Option ErrEntry) (p : Quic α) : Prop :=
  ∀ s, Always errorQueue p (fun value s' => Account s (quoted value) s') s

section Rules

variable {α β : Type} {quoted : α → Option ErrEntry}

/-- What was added before does not change which entry is quoted: the queue is read from the front.
-/
theorem Account.after {s s₁ s' : Thread} {reported : Option ErrEntry} (first : Grown s s₁)
    (account : Account s₁ reported s') : Account s reported s' := by
  cases reported with
  | none => exact first.trans account
  | some entry =>
      obtain ⟨middle, grown, head, left⟩ := account
      obtain ⟨new, rfl, own⟩ := first
      exact ⟨middle, .trans ⟨new, rfl, own⟩ grown, head, left⟩

/-- A value that quotes nothing accounts for a queue nobody touched. -/
theorem Accounted.pure {value : α} (silent : quoted value = none) :
    Accounted quoted (Pure.pure value) :=
  fun s => Always.pure (by rw [silent]; exact .refl s)

theorem Accounted.ite {condition : Prop} [Decidable condition] {p q : Quic α}
    (first : Accounted quoted p) (second : Accounted quoted q) :
    Accounted quoted (if condition then p else q) := by
  split
  · exact first
  · exact second

/-- An ordinary first part only adds errors. -/
theorem Accounted.bind {p : Quic α} {quoted : β → Option ErrEntry} {rest : α → Quic β}
    (ordinary : Only Call.IsOrdinary p) (second : ∀ value, Accounted quoted (rest value)) :
    Accounted quoted (p >>= rest) := by
  intro s result s' run
  obtain ⟨value, s₁, first, next⟩ := run_bind_iff.mp run
  exact (second value s₁ result s' next).after (grown_of_ordinary ordinary first)

/-- A program that does not look at the queue may return anything that quotes nothing. -/
theorem Accounted.of_ordinary {p : Quic α} (ordinary : Only Call.IsOrdinary p)
    (silent : Returns (fun value => quoted value = none) p) : Accounted quoted p := by
  intro s value s' run
  rw [silent.of_run run]
  exact grown_of_ordinary ordinary run

/-- After a part that may have reported, either nothing was reported, or the rest only releases and
quotes the same entry. -/
theorem Accounted.seq {p : Quic α} {quoted' : β → Option ErrEntry} {rest : α → Quic β}
    (first : Accounted quoted p)
    (second : ∀ value, (quoted value = none ∧ Accounted quoted' (rest value)) ∨
      (Only Call.IsOrdinary (rest value) ∧
        Returns (fun result => quoted' result = quoted value) (rest value))) :
    Accounted quoted' (p >>= rest) := by
  intro s result s' run
  obtain ⟨value, s₁, begun, next⟩ := run_bind_iff.mp run
  have account : Account s (quoted value) s₁ := first s value s₁ begun
  rcases second value with ⟨silent, accounted⟩ | ⟨ordinary, quotes⟩
  · rw [silent] at account
    exact (accounted s₁ result s' next).after account
  · have released : Grown s₁ s' := grown_of_ordinary ordinary next
    rw [quotes.of_run next]
    cases reported : quoted value with
    | none => exact (reported ▸ account : Account s none s₁).trans released
    | some entry =>
        obtain ⟨middle, grown, head, left⟩ := (reported ▸ account : Account s (some entry) s₁)
        exact ⟨middle, grown, head, left.trans released⟩

/-- `php_quic_throw` has a text of its own. -/
theorem phpQuicThrow_accounted (format : Bytes) : Accounted Thrown.quoted (phpQuicThrow format) :=
  .pure rfl

/-- **`php_quic_throw_ssl`** quotes the oldest entry and takes all others. -/
theorem phpQuicThrowSsl_accounted (format : Bytes) :
    Accounted Thrown.quoted (phpQuicThrowSsl format) := by
  intro s thrown s' run
  obtain ⟨entry, s₁, ⟨rfl, rfl⟩, quoting⟩ := run_ask_iff.mp run
  cases head : s.queue.head? with
  | none =>
      rw [head] at quoting
      obtain ⟨rfl, rfl⟩ := run_done_iff.mp quoting
      obtain ⟨queue, operation⟩ := s
      cases queue with
      | nil => exact .refl _
      | cons _ _ => cases head
  | some entry =>
      rw [head] at quoting
      obtain ⟨_, s₂, ⟨_, rfl, _⟩, quoting⟩ := run_ask_iff.mp quoting
      obtain ⟨_, _, rfl, quoting⟩ := run_ask_iff.mp quoting
      obtain ⟨rfl, rfl⟩ := run_done_iff.mp quoting
      exact ⟨s, .refl s, head, .refl _⟩

/-- The exception, followed by releases. -/
theorem Accounted.throwSsl_bind {format : Bytes} {rest : Thrown → Quic α}
    (ordinary : ∀ thrown, Only Call.IsOrdinary (rest thrown))
    (quotes : ∀ thrown, Returns (fun value => quoted value = thrown.quoted) (rest thrown)) :
    Accounted quoted (phpQuicThrowSsl format >>= rest) :=
  (phpQuicThrowSsl_accounted format).seq fun thrown => .inr ⟨ordinary thrown, quotes thrown⟩

end Rules

/-! ### The entry points -/

/-- The entry a method's outcome quotes. -/
def quotedOf {α : Type} (outcome : Outcome α) : Option ErrEntry :=
  (thrownOf outcome).bind Thrown.quoted

section Ordinary

variable {α : Type} {p : Quic α}

theorem Call.isOrdinary_of {P : Call → Prop} (notGet : ¬ P .errGetError)
    (notClear : ¬ P .errClearError) (call : Call) (here : P call) : call.IsOrdinary := by
  cases call with
  | errGetError => exact notGet here
  | errClearError => exact notClear here
  | _ => trivial

/-- The helpers of the constructors do not look at the queue, apart from the throw helper. -/
theorem ordinary_of_cleanup (only : Only Call.IsCleanup p) : Only Call.IsOrdinary p :=
  only.mono (Call.isOrdinary_of id id)

theorem ordinary_of_context (only : Only Call.IsContext p) : Only Call.IsOrdinary p :=
  only.mono (Call.isOrdinary_of id id)

theorem ordinary_of_socket (only : Only Call.IsSocket p) : Only Call.IsOrdinary p :=
  only.mono (Call.isOrdinary_of id id)

theorem ordinary_of_encoding (only : Only Call.IsEncoding p) : Only Call.IsOrdinary p :=
  only.mono (Call.isOrdinary_of id id)

theorem ordinary_of_prepare (only : Only Call.IsPrepare p) : Only Call.IsOrdinary p :=
  only.mono (Call.isOrdinary_of id id)

theorem ordinary_of_handshake {ssl : Ssl} (only : Only (Call.IsHandshake ssl) p) :
    Only Call.IsOrdinary p :=
  only.mono (Call.isOrdinary_of id id)

theorem ordinary_of_certificate (only : Only Call.IsCertificate p) : Only Call.IsOrdinary p :=
  only.mono (Call.isOrdinary_of id id)

end Ordinary

/-- A method that only throws with `php_quic_throw`. -/
theorem throwing_accounted {α : Type} (format : Bytes) :
    Accounted quotedOf (throwing (phpQuicThrow format) : Quic (Outcome α)) :=
  .of_ordinary (.pure _) (.pure rfl)

/-- A method that throws with `php_quic_throw_ssl`. -/
theorem throwingSsl_accounted {α : Type} (format : Bytes) :
    Accounted quotedOf (throwing (phpQuicThrowSsl format) : Quic (Outcome α)) :=
  .throwSsl_bind (fun _ => .pure _) fun _ => .pure rfl

/-! #### `Quic\Connection` -/

/-- What a constructor's outcome quotes, once it has one. -/
def quotedOfSome {α : Type} (outcome : Option (Outcome α)) : Option ErrEntry :=
  outcome.bind quotedOf

theorem some_throw_accounted {α : Type} (format : Bytes) :
    Accounted quotedOfSome
      (do return some (.error (← phpQuicThrow format)) : Quic (Option (Outcome α))) :=
  .of_ordinary (.pure _) (.pure rfl)

theorem sslError_accounted (alpn : ZendString) (peer : BioAddr) (ssl : Option Ssl)
    (ctx : Option SslCtx) (fd : Fd) :
    Accounted quotedOfSome (do
      return some (.error (← Connection.sslError alpn peer ssl ctx fd)) :
        Quic (Option (Outcome PhpQuicConnection))) := by
  unfold Connection.sslError
  rw [bind_assoc]
  refine .throwSsl_bind (fun thrown => ?_) fun thrown => ?_
  · rw [bind_assoc]
    exact .bind (ordinary_of_cleanup (connectionCleanup_calls alpn peer ssl ctx fd)) fun _ => .pure _
  · rw [bind_assoc]
    exact .bind_any fun _ => .pure rfl

theorem some_throwSsl_accounted {α : Type} (format : Bytes) :
    Accounted quotedOfSome
      (do return some (.error (← phpQuicThrowSsl format)) : Quic (Option (Outcome α))) :=
  .throwSsl_bind (fun _ => .pure _) fun _ => .pure rfl

theorem handshake_accounted (fuel : Nat) (ssl : Ssl) (fd : Fd) (host : Bytes)
    (port connectTimeoutMs : Int) :
    Accounted quotedOfSome (Connection.handshake fuel ssl fd host port connectTimeoutMs) := by
  refine .ite (.bind (ordinary_of_handshake (phpQuicConnectTimed_calls fuel ssl fd _)) fun hs => ?_)
    (.bind (.call trivial) fun _ => .ite (some_throwSsl_accounted _) (.pure rfl))
  cases hs with
  | none => exact .pure rfl
  | some hs =>
      exact .ite (some_throw_accounted _) (.ite (some_throwSsl_accounted _) (.pure rfl))

/-- A mismatch is reported by the text in `errbuf`. -/
theorem checkPinning_accounted (ssl : Ssl) (options : Option HashTable) :
    Accounted quotedOf (Connection.checkPinning ssl options) := by
  refine .of_ordinary (ordinary_of_certificate (checkPinning_calls ssl options)) ?_
  unfold Connection.checkPinning
  split
  · exact .pure rfl
  · refine .bind_any fun verdict => ?_
    cases verdict with
    | ok _ => exact .pure rfl
    | error errbuf => exact .pure rfl

/-- An entry is quoted behind a failed setting or handshake; what is released afterwards only adds.
-/
theorem establish_accounted (fuel : Nat) (obj : PhpQuicConnection) (ssl : Ssl) (fd : Fd)
    (alpn : ZendString) (peer : BioAddr) (host : Bytes)
    (port idleTimeoutMs connectTimeoutMs : Int) (options : Option HashTable)
    (setup : PhpQuicTlsSetup) :
    Accounted quotedOfSome (Connection.establish fuel obj ssl fd alpn peer host port idleTimeoutMs
      connectTimeoutMs options setup) := by
  have cleaned (thrown : Thrown) : Only Call.IsOrdinary (do
        Connection.cleanup alpn peer (some ssl) none fd
        return some (.error thrown) : Quic (Option (Outcome PhpQuicConnection))) :=
    .bind (ordinary_of_cleanup (connectionCleanup_calls alpn peer _ _ fd)) fun _ => .pure _
  refine .bind (ordinary_of_prepare (prepareSsl_calls ssl fd alpn peer host setup)) fun _ =>
    .ite (sslError_accounted alpn peer _ _ fd) <|
    .bind (ordinary_of_prepare (requestIdleTimeout_calls ssl _)) fun _ =>
    .bind (ordinary_of_prepare (phpQuicConnectionConfigure_calls ssl)) fun _ =>
    (handshake_accounted fuel ssl fd host port _).seq fun shaken => ?_
  match shaken with
  | none => exact .inl ⟨rfl, .pure rfl⟩
  | some (.error thrown) => exact .inr ⟨cleaned thrown, .bind_any fun _ => .pure rfl⟩
  | some (.ok ()) =>
      refine .inl ⟨rfl, (checkPinning_accounted ssl options).seq fun pinned => ?_⟩
      cases pinned with
      | error thrown => exact .inr ⟨cleaned thrown, .bind_any fun _ => .pure rfl⟩
      | ok _ =>
          exact .inl ⟨rfl, .bind (.call trivial) fun _ => .bind (.call trivial) fun _ => .pure rfl⟩

/-- Without a context, or without an SSL object, the label quotes the entry that says why. -/
theorem createSsl_accounted (fuel : Nat) (obj : PhpQuicConnection) (fd : Fd) (alpn : ZendString)
    (peer : BioAddr) (host : Bytes) (port idleTimeoutMs connectTimeoutMs : Int)
    (options : Option HashTable) :
    Accounted quotedOfSome (Connection.createSsl fuel obj fd alpn peer host port idleTimeoutMs
      connectTimeoutMs options) := by
  refine .bind (.call trivial) fun ctx => ?_
  cases ctx with
  | none => exact sslError_accounted alpn peer _ _ fd
  | some ctx =>
  refine .bind (ordinary_of_context (phpQuicConfigureCtx_calls ctx options false)) fun result => ?_
  cases result with
  | error errbuf =>
      refine (phpQuicThrow_accounted errbuf).seq fun thrown => .inr ⟨?_, .bind_any fun _ => .pure rfl⟩
      exact .bind (ordinary_of_cleanup (connectionCleanup_calls alpn peer _ _ fd)) fun _ => .pure _
  | ok setup =>
  refine .bind (.call trivial) fun ssl => ?_
  cases ssl with
  | none => exact sslError_accounted alpn peer _ _ fd
  | some ssl =>
      exact .bind (.call trivial) fun _ => establish_accounted fuel obj ssl fd alpn peer host port _ _
        options setup

/-- **The client's constructor accounts for the queue**: it quotes the oldest entry, or nothing. -/
theorem newConnection_accounted (fuel : Nat) (obj : PhpQuicConnection) (host : Bytes) (port : Int)
    (options : Option HashTable) :
    Accounted quotedOfSome (Connection.construct fuel obj host port options) := by
  refine .ite (some_throw_accounted _) <| .ite (some_throw_accounted _) <|
    .ite (some_throw_accounted _) <|
    .bind (ordinary_of_context (readOptions_context options)) fun ⟨spec, idle, timeout⟩ => ?_
  cases spec with
  | none => exact some_throw_accounted _
  | some spec =>
  refine .bind (ordinary_of_encoding (phpQuicAlpnFromZval_calls spec)) fun alpn => ?_
  cases alpn with
  | error errbuf => exact some_throw_accounted _
  | ok alpn =>
  refine .bind (ordinary_of_socket (phpQuicUdpClient_calls host _)) fun socket => ?_
  match socket with
  | .error errbuf => exact .bind (.call trivial) fun _ => some_throw_accounted _
  | .ok (fd, address) =>
      exact createSsl_accounted fuel obj fd alpn address host port idle timeout options

/-- A new stream only counts its connection. -/
theorem streamInit_ordinary (ssl : Ssl) (connection : ObjectId) :
    Only Call.IsOrdinary (phpQuicStreamInitObject ssl connection) :=
  .bind (.call trivial) fun _ => .pure _

theorem openStream_accounted (obj : PhpQuicConnection) (this : ObjectId) (bidirectional : Bool) :
    Accounted quotedOf (Connection.openStream obj this bidirectional) := by
  unfold Connection.openStream
  split
  · exact throwing_accounted _
  · refine .bind (.call trivial) fun stream => ?_
    cases stream with
    | none => exact throwingSsl_accounted _
    | some stream => exact .bind (streamInit_ordinary stream this) fun _ => .pure rfl

theorem acceptStream_ordinary (obj : PhpQuicConnection) (this : ObjectId) :
    Only Call.IsOrdinary (Connection.acceptStream obj this) := by
  unfold Connection.acceptStream
  split
  · exact .pure _
  · refine .bind (.call trivial) fun stream => ?_
    cases stream with
    | none => exact .pure _
    | some stream => exact .bind (streamInit_ordinary stream this) fun _ => .pure _

theorem closeConnection_ordinary (obj : PhpQuicConnection) (errorCode : Int) (reason : Bytes) :
    Only Call.IsOrdinary (Connection.close obj errorCode reason) := by
  unfold Connection.close
  split
  · exact .bind (.call trivial) fun _ => .pure _
  · exact .pure _

theorem getCloseInfo_ordinary (obj : PhpQuicConnection) :
    Only Call.IsOrdinary (Connection.getCloseInfo obj) := by
  unfold Connection.getCloseInfo
  split
  · exact .pure _
  · refine .bind (.call trivial) fun info => ?_
    cases info with
    | none => exact .pure _
    | some info => exact .pure _

theorem getCryptoInfo_accounted (obj : PhpQuicConnection) :
    Accounted quotedOf (Connection.getCryptoInfo obj) := by
  unfold Connection.getCryptoInfo
  split
  · exact throwing_accounted _
  · exact .bind (.call trivial) fun _ => .bind (.call trivial) fun _ =>
      .bind (.call trivial) fun _ => .pure rfl

theorem getNegotiatedAlpn_ordinary (obj : PhpQuicConnection) :
    Only Call.IsOrdinary (Connection.getNegotiatedAlpn obj) := by
  unfold Connection.getNegotiatedAlpn
  split
  · exact .pure _
  · exact .bind (.call trivial) fun _ => .pure _

theorem x509ToPem_ordinary (cert : X509) : Only Call.IsOrdinary (phpQuicX509ToPem cert) := by
  refine .bind (.call trivial) fun bio => ?_
  cases bio with
  | none => exact .pure _
  | some bio =>
      exact .bind (.call trivial) fun _ => .ite (.bind (.call trivial) fun _ => .pure _) <|
        .bind (.call trivial) fun _ => .bind (.call trivial) fun _ => .pure _

/-- No certificate is no error; one that cannot be encoded quotes the oldest entry. -/
theorem getPeerCertificate_accounted (obj : PhpQuicConnection) :
    Accounted quotedOf (Connection.getPeerCertificate obj) := by
  unfold Connection.getPeerCertificate
  split
  · exact .pure rfl
  · refine .bind (.call trivial) fun cert => ?_
    cases cert with
    | none => exact .pure rfl
    | some cert =>
        refine .bind (x509ToPem_ordinary cert) fun pem => .bind (.call trivial) fun _ => ?_
        cases pem with
        | none => exact throwingSsl_accounted _
        | some pem => exact .pure rfl

/-- By induction on the chain: what cannot be encoded is left out in silence. -/
theorem chainToPem_ordinary (chain : List X509) :
    Only Call.IsOrdinary (Connection.chainToPem chain) := by
  induction chain with
  | nil => exact .pure _
  | cons cert rest ih => exact .bind (x509ToPem_ordinary cert) fun _ => .bind ih fun _ => .pure _

theorem getPeerCertificateChain_ordinary (obj : PhpQuicConnection) :
    Only Call.IsOrdinary (Connection.getPeerCertificateChain obj) := by
  unfold Connection.getPeerCertificateChain
  split
  · exact .pure _
  · refine .bind (.call trivial) fun chain => ?_
    cases chain with
    | none => exact .pure _
    | some chain => exact chainToPem_ordinary chain

theorem getVerifyResult_accounted (obj : PhpQuicConnection) :
    Accounted quotedOf (Connection.getVerifyResult obj) := by
  unfold Connection.getVerifyResult
  split
  · exact throwing_accounted _
  · exact .bind (.call trivial) fun _ => .pure rfl

theorem getVerifyResultString_accounted (obj : PhpQuicConnection) :
    Accounted quotedOf (Connection.getVerifyResultString obj) := by
  unfold Connection.getVerifyResultString
  split
  · exact throwing_accounted _
  · exact .bind (.call trivial) fun _ => .bind (.call trivial) fun _ => .pure rfl

theorem closeSocket_ordinary (fd : Option Fd) : Only Call.IsOrdinary (closeSocket fd) := by
  cases fd with
  | none => exact .pure _
  | some fd => exact .call trivial

theorem releaseObject_ordinary (object : Option ObjectId) :
    Only Call.IsOrdinary (releaseObject object) := by
  cases object with
  | none => exact .pure _
  | some object => exact .call trivial

theorem freeConnection_ordinary (obj : PhpQuicConnection) :
    Only Call.IsOrdinary (quicConnectionFree obj) :=
  .bind (ordinary_of_cleanup (freeSsl_calls obj.ssl)) fun _ =>
    .bind (closeSocket_ordinary _) fun _ => releaseObject_ordinary obj.listener

/-! #### Methods of connections and listeners -/

theorem setBlocking_accounted (ssl : Option Ssl) (closedText : String) (blocking : Bool) :
    Accounted quotedOf (setBlockingOf ssl closedText blocking) := by
  cases ssl with
  | none => exact throwing_accounted _
  | some ssl => exact .bind (.call trivial) fun _ => .ite (throwingSsl_accounted _) (.pure rfl)

theorem wantsRead_ordinary (ssl : Option Ssl) : Only Call.IsOrdinary (wantsReadOf ssl) := by
  cases ssl with
  | none => exact .pure _
  | some ssl => exact .call trivial

theorem wantsWrite_ordinary (ssl : Option Ssl) : Only Call.IsOrdinary (wantsWriteOf ssl) := by
  cases ssl with
  | none => exact .pure _
  | some ssl => exact .call trivial

/-- A timer that cannot be read quotes the oldest entry. -/
theorem getTimeout_accounted (ssl : Option Ssl) : Accounted quotedOf (getTimeoutOf ssl) := by
  cases ssl with
  | none => exact .pure rfl
  | some ssl =>
      refine .bind (.call trivial) fun timeout => ?_
      cases timeout with
      | none => exact throwingSsl_accounted _
      | some timeout => exact .pure rfl

theorem handleEvents_ordinary (ssl : Option Ssl) : Only Call.IsOrdinary (handleEventsOf ssl) := by
  cases ssl with
  | none => exact .pure _
  | some ssl => exact .call trivial

/-! #### `Quic\Listener` -/

theorem freeAlpnData_ordinary (data : Option QuicAlpnData) :
    Only Call.IsOrdinary (freeAlpnData data) := by
  cases data with
  | none => exact .pure _
  | some data => exact .bind (.call trivial) fun _ => .call trivial

/-- The listener's release frees its fields, and reports nothing. -/
theorem listenerRelease_ordinary (obj : PhpQuicListener) :
    Only Call.IsOrdinary (quicListenerRelease obj) :=
  .bind (ordinary_of_cleanup (freeSsl_calls obj.ssl)) fun _ =>
    .bind (closeSocket_ordinary obj.fd) fun _ =>
    .bind (ordinary_of_cleanup (freeCtx_calls obj.ctx)) fun _ =>
    .bind (freeAlpnData_ordinary obj.alpnCbArg) fun _ => .pure _

theorem listenerCleanup_ordinary (owner : Listener.AlpnOwner) (listener : Option Ssl)
    (ctx : Option SslCtx) (fd : Fd) :
    Only Call.IsOrdinary (Listener.cleanup owner listener ctx fd) := by
  have released : Only Call.IsOrdinary (Listener.releaseAlpn owner) := by
    cases owner with
    | string alpn => exact .call trivial
    | data adata => exact freeAlpnData_ordinary (some adata)
  exact .bind released fun _ => .bind (ordinary_of_cleanup (freeSsl_calls listener)) fun _ =>
    .bind (ordinary_of_cleanup (freeCtx_calls ctx)) fun _ => .call trivial

/-- The listener's label quotes before it releases, so the entry is the one from before. -/
theorem listenerError_accounted (owner : Listener.AlpnOwner) (listener : Option Ssl)
    (ctx : Option SslCtx) (fd : Fd) :
    Accounted quotedOf (do
      return .error (← Listener.sslError owner listener ctx fd) : Quic (Outcome PhpQuicListener)) := by
  unfold Listener.sslError
  rw [bind_assoc]
  refine .throwSsl_bind (fun thrown => ?_) fun thrown => ?_
  · rw [bind_assoc]
    exact .bind (listenerCleanup_ordinary owner listener ctx fd) fun _ => .pure _
  · rw [bind_assoc]
    exact .bind_any fun _ => .pure rfl

theorem startListening_accounted (fd : Fd) (ctx : SslCtx) (alpn : ZendString) (host : Bytes)
    (port : Int) : Accounted quotedOf (Listener.startListening fd ctx alpn host port) := by
  refine .bind (.call trivial) fun id => .bind (.call trivial) fun _ =>
    .bind (.call trivial) fun listener => ?_
  cases listener with
  | none => exact listenerError_accounted _ _ _ fd
  | some listener =>
  refine .bind (.call trivial) fun bio => ?_
  cases bio with
  | none => exact listenerError_accounted _ _ _ fd
  | some bio =>
  refine .bind (.call trivial) fun _ => .bind (.call trivial) fun _ => .ite ?_ (.pure rfl)
  exact .throwSsl_bind
    (fun _ => .bind (listenerCleanup_ordinary _ (some listener) (some ctx) fd) fun _ => .pure _)
    fun _ => .bind_any fun _ => .pure rfl

/-- A context that cannot be configured is reported by the text in `errbuf`. -/
theorem createCtx_accounted (fd : Fd) (alpn : ZendString) (host : Bytes) (port : Int)
    (options : HashTable) : Accounted quotedOf (Listener.createCtx fd alpn host port options) := by
  refine .bind (.call trivial) fun ctx => ?_
  cases ctx with
  | none => exact listenerError_accounted _ _ _ fd
  | some ctx =>
  refine .bind (ordinary_of_context (phpQuicConfigureCtx_calls ctx _ true)) fun result => ?_
  cases result with
  | error errbuf =>
      refine (phpQuicThrow_accounted errbuf).seq fun thrown => .inr ⟨?_, .bind_any fun _ => .pure rfl⟩
      exact .bind (listenerCleanup_ordinary _ none (some ctx) fd) fun _ => .pure _
  | ok setup => exact startListening_accounted fd ctx alpn host port

/-- **The listener's constructor accounts for the queue.** -/
theorem newListener_accounted (obj : PhpQuicListener) (host : Bytes) (port : Int)
    (options : HashTable) : Accounted quotedOf (Listener.construct obj host port options) := by
  refine .ite (throwing_accounted _) <| .ite (throwing_accounted _) <| .ite (throwing_accounted _) ?_
  dsimp only
  split
  · exact throwing_accounted _
  · refine .bind (ordinary_of_encoding (phpQuicAlpnFromZval_calls _)) fun alpn => ?_
    cases alpn with
    | error errbuf => exact throwing_accounted _
    | ok alpn =>
    refine .bind (ordinary_of_socket (phpQuicUdpServer_calls host _ _)) fun socket => ?_
    cases socket with
    | error errbuf => exact .bind (.call trivial) fun _ => throwing_accounted _
    | ok fd => exact createCtx_accounted fd alpn host port options

theorem accept_ordinary (obj : PhpQuicListener) (this : ObjectId) :
    Only Call.IsOrdinary (Listener.accept obj this) := by
  unfold Listener.accept
  split
  · exact .pure _
  · refine .bind (.call trivial) fun conn => ?_
    cases conn with
    | none => exact .pure _
    | some conn =>
        exact .bind (ordinary_of_prepare (phpQuicConnectionConfigure_calls conn)) fun _ =>
          .bind (.bind (.call trivial) fun _ => .pure _) fun _ => .pure _

/-! #### `Quic\Stream` and its adapter -/

theorem newStream_accounted (obj : PhpQuicStream) (conn : ObjectId) (bidirectional : Bool) :
    Accounted quotedOf (Stream.construct obj conn bidirectional) := by
  refine .ite (throwing_accounted _) <| .bind (.call trivial) fun object => ?_
  match object with
  | .connection { ssl := some ssl, .. } =>
      refine .bind (.call trivial) fun stream => ?_
      cases stream with
      | none => exact throwingSsl_accounted _
      | some stream => exact .bind (.call trivial) fun _ => .pure rfl
  | .connection { ssl := none, .. } => exact throwing_accounted _
  | .listener _ => exact throwing_accounted _
  | .stream _ => exact throwing_accounted _
  | .foreign => exact throwing_accounted _

/-- A write that OpenSSL cannot take yet is no error; any other failure quotes the oldest entry. -/
theorem write_accounted (obj : PhpQuicStream) (data : Buffer) (fin : Bool) :
    Accounted quotedOf (Stream.write obj data fin) := by
  unfold Stream.write
  split
  · exact throwing_accounted _
  · refine .ite (.ite (.bind (.call trivial) fun _ => .ite (throwingSsl_accounted _) (.pure rfl))
      (.pure rfl)) <| .bind (.call trivial) fun ⟨rc, written⟩ => ?_
    exact .ite (.bind (.call trivial) fun _ => .ite (.pure rfl) (throwingSsl_accounted _)) (.pure rfl)

/-- The loop reads until nothing comes, and leaves the reason in the queue. -/
theorem readLoop_ordinary (ssl : Ssl) (want : Nat) (blocking : Bool) (buf : Stream.ReadBuffer want) :
    Only Call.IsOrdinary (Stream.readLoop ssl want blocking buf) := by
  induction buf using Stream.readLoop.induct want blocking with
  | case1 buf ih =>
      rw [Stream.readLoop]
      refine .bind (.call trivial) fun got => ?_
      cases got with
      | none => exact .pure _
      | some got =>
          dsimp only
          split
          · exact .pure _
          · split
            · exact ih got ‹_› ‹_›
            · exact .pure _

/-- Of the reasons only a true error is quoted: a stream that ended quotes nothing. -/
theorem endOfRead_accounted (ssl : Ssl) (rc : Int) :
    Accounted quotedOf (Stream.endOfRead ssl rc) := by
  refine .bind (.call trivial) fun err => .ite (.pure rfl) <| .ite (.pure rfl) <|
    .bind (.call trivial) fun state => ?_
  cases state with
  | resetRemote => exact .pure rfl
  | resetLocal => exact .pure rfl
  | connClosed => exact .pure rfl
  | _ => exact throwingSsl_accounted _

/-- **`read()` accounts for the queue**, behind as many rounds of its loop as it made. -/
theorem read_accounted (obj : PhpQuicStream) (length : Int) :
    Accounted quotedOf (Stream.read obj length) := by
  unfold Stream.read
  split
  · exact throwing_accounted _
  · split
    · exact .pure rfl
    · exact .bind (.call trivial) fun _ => .bind (readLoop_ordinary _ _ _ _) fun ⟨bytes, rc⟩ =>
        .ite (.pure rfl) (endOfRead_accounted _ rc)

theorem endStream_accounted (obj : PhpQuicStream) : Accounted quotedOf (Stream.endStream obj) := by
  unfold Stream.endStream
  split
  · exact throwing_accounted _
  · exact .bind (.call trivial) fun _ => .ite (throwingSsl_accounted _) (.pure rfl)

theorem reset_accounted (obj : PhpQuicStream) (errorCode : Int) :
    Accounted quotedOf (Stream.reset obj errorCode) := by
  unfold Stream.reset
  split
  · exact throwing_accounted _
  · exact .bind (.call trivial) fun _ => .ite (throwingSsl_accounted _) (.pure rfl)

theorem getResetCode_ordinary (obj : PhpQuicStream) :
    Only Call.IsOrdinary (Stream.getResetCode obj) := by
  unfold Stream.getResetCode
  split
  · exact .pure _
  · refine .bind (.call trivial) fun code => ?_
    cases code with
    | some code => exact .pure _
    | none =>
        refine .bind (.call trivial) fun code => ?_
        cases code with
        | some code => exact .pure _
        | none => exact .pure _

theorem getId_accounted (obj : PhpQuicStream) : Accounted quotedOf (Stream.getId obj) := by
  unfold Stream.getId
  split
  · exact throwing_accounted _
  · exact .bind (.call trivial) fun _ => .pure rfl

theorem isBidirectional_ordinary (obj : PhpQuicStream) :
    Only Call.IsOrdinary (Stream.isBidirectional obj) := by
  unfold Stream.isBidirectional
  split
  · exact .pure _
  · exact .call trivial

theorem getConnection_accounted (obj : PhpQuicStream) :
    Accounted quotedOf (Stream.getConnection obj) := by
  unfold Stream.getConnection
  split
  · exact throwing_accounted _
  · exact .bind (.call trivial) fun _ => .pure rfl

theorem asStream_accounted (obj : PhpQuicStream) (this : ObjectId) :
    Accounted quotedOf (Stream.asStream obj this) := by
  unfold Stream.asStream
  split
  · exact throwing_accounted _
  · refine .bind (.call trivial) fun _ => .bind (.call trivial) fun stream => ?_
    cases stream with
    | none => exact .bind (.call trivial) fun _ => throwing_accounted _
    | some stream => exact .pure rfl

theorem freeStream_ordinary (obj : PhpQuicStream) : Only Call.IsOrdinary (quicStreamFree obj) :=
  .bind (ordinary_of_cleanup (freeSsl_calls obj.ssl)) fun _ => releaseObject_ordinary obj.connection

theorem opWrite_ordinary (obj : PhpQuicStream) (buf : Buffer) :
    Only Call.IsOrdinary (quicStreamOpWrite obj buf) := by
  unfold quicStreamOpWrite
  split
  · exact .pure _
  · exact .bind (.call trivial) fun ⟨rc, written⟩ => .ite (.pure _) <|
      .bind (.call trivial) fun _ => .ite (.pure _) (.pure _)

/-- The adapter has no exceptions: it reports an end of file, and leaves the queue alone. -/
theorem opRead_ordinary (obj : PhpQuicStream) (count : Nat) :
    Only Call.IsOrdinary (quicStreamOpRead obj count) := by
  unfold quicStreamOpRead
  split
  · exact .pure _
  · refine .bind (.call trivial) fun got => ?_
    cases got with
    | some got => exact .pure _
    | none =>
        refine .bind (.call trivial) fun err => ?_
        cases err <;> exact .pure _

theorem opCast_ordinary (obj : PhpQuicStream) (castas : CastAs) :
    Only Call.IsOrdinary (quicStreamOpCast obj castas) := by
  unfold quicStreamOpCast
  split
  · exact .pure _
  · cases castas with
    | stdio => exact .pure _
    | fd | fdForSelect | socketd =>
        refine .bind (.call trivial) fun object => ?_
        cases object <;> exact .pure _

theorem releaseItems_ordinary (buffer : Poll.ItemBuffer) :
    Only Call.IsOrdinary (Poll.releaseItems buffer) := by
  cases buffer with
  | none => exact .pure _
  | some address => exact .call trivial

theorem objSsl_ordinary (value : Zval) : Only Call.IsOrdinary (phpQuicObjSsl value) := by
  unfold phpQuicObjSsl
  split
  · refine .bind (.call trivial) fun object => ?_
    cases object <;> exact .pure _
  · exact .pure _

/-- By induction on the items: what is wrong with one is reported without the queue. -/
theorem fillItems_accounted (buffer : Poll.ItemBuffer) (index : Nat) (items : HashTable) :
    Accounted quotedOf (Poll.fillItems buffer index items) := by
  have refused (format : Bytes) : Accounted quotedOf (do
      Poll.releaseItems buffer
      throwing (phpQuicThrow format) : Quic (Outcome (List PollItem))) :=
    .bind (releaseItems_ordinary buffer) fun _ => throwing_accounted format
  induction items generalizing index with
  | nil => exact .pure rfl
  | cons item rest ih =>
      unfold Poll.fillItems
      split
      · split
        · refine .bind (objSsl_ordinary _) fun ssl => ?_
          cases ssl with
          | none => exact refused _
          | some desc =>
              refine .bind (.call trivial) fun mask => (ih (index + 1)).seq fun filled => ?_
              cases filled with
              | error thrown => exact .inr ⟨.pure _, .pure rfl⟩
              | ok items => exact .inr ⟨.pure _, .pure rfl⟩
        · exact refused _
      · exact refused _

/-- **`poll` quotes the queue only behind a failed `SSL_poll`.** -/
theorem poll_accounted (items : HashTable) (timeout : Option Float) :
    Accounted quotedOf (Poll.poll items timeout) := by
  have buffered : Only Call.IsOrdinary (Poll.itemBuffer items.length) :=
    .ite (.pure _) (.bind (.call trivial) fun _ => .pure _)
  refine .ite (.pure rfl) <| .bind buffered fun buffer =>
    (fillItems_accounted buffer 0 items).seq fun filled => ?_
  cases filled with
  | error thrown => exact .inr ⟨.pure _, .pure rfl⟩
  | ok pollItems =>
      refine .inl ⟨rfl, .bind (.call trivial) fun revents => ?_⟩
      cases revents with
      | none => exact .bind (releaseItems_ordinary buffer) fun _ => throwingSsl_accounted _
      | some revents => exact .bind (releaseItems_ordinary buffer) fun _ => .pure rfl

/-! ### Every entry point -/

/-- An entry point without exceptions quotes nothing. -/
theorem quiet_accounted {α : Type} {method : Quic α} (ordinary : Only Call.IsOrdinary method) :
    Accounted (·.bind Thrown.quoted) (quiet method) :=
  .bind ordinary fun _ => .pure rfl

theorem raising_accounted {α : Type} {method : Quic (Outcome α)}
    (accounted : Accounted quotedOf method) :
    Accounted (·.bind Thrown.quoted) (raising method) :=
  accounted.seq fun _ => .inr ⟨.pure _, .pure rfl⟩

/-- **Every entry point accounts for the queue by the message it raises.** -/
theorem operation_accounted (op : Operation) : Accounted (·.bind Thrown.quoted) op.program := by
  cases op with
  | newConnection fuel obj host port options =>
      refine (newConnection_accounted fuel obj host port options).seq fun outcome => .inr ?_
      refine ⟨.pure _, .pure ?_⟩
      cases outcome <;> rfl
  | openStream obj this bidirectional =>
      exact raising_accounted (openStream_accounted obj this bidirectional)
  | acceptStream obj this => exact quiet_accounted (acceptStream_ordinary ..)
  | closeConnection obj errorCode reason => exact quiet_accounted (closeConnection_ordinary ..)
  | getCloseInfo obj => exact quiet_accounted (getCloseInfo_ordinary obj)
  | getConnectionFd obj => exact quiet_accounted (.pure _)
  | getCryptoInfo obj => exact raising_accounted (getCryptoInfo_accounted obj)
  | getNegotiatedAlpn obj => exact quiet_accounted (getNegotiatedAlpn_ordinary obj)
  | getPeerCertificate obj => exact raising_accounted (getPeerCertificate_accounted obj)
  | getPeerCertificateChain obj => exact quiet_accounted (getPeerCertificateChain_ordinary obj)
  | getVerifyResult obj => exact raising_accounted (getVerifyResult_accounted obj)
  | getVerifyResultString obj => exact raising_accounted (getVerifyResultString_accounted obj)
  | freeConnection obj => exact quiet_accounted (freeConnection_ordinary obj)
  | newListener obj host port options =>
      exact raising_accounted (newListener_accounted obj host port options)
  | accept obj this => exact quiet_accounted (accept_ordinary obj this)
  | closeListener obj => exact quiet_accounted (listenerRelease_ordinary obj)
  | getListenerFd obj => exact quiet_accounted (.pure _)
  | freeListener obj =>
      exact quiet_accounted (.bind (listenerRelease_ordinary obj) fun _ => .pure _)
  | setBlocking ssl closedText blocking =>
      exact raising_accounted (setBlocking_accounted ssl closedText blocking)
  | wantsRead ssl => exact quiet_accounted (wantsRead_ordinary ssl)
  | wantsWrite ssl => exact quiet_accounted (wantsWrite_ordinary ssl)
  | getTimeout ssl => exact raising_accounted (getTimeout_accounted ssl)
  | handleEvents ssl => exact quiet_accounted (handleEvents_ordinary ssl)
  | newStream obj conn bidirectional =>
      exact raising_accounted (newStream_accounted obj conn bidirectional)
  | write obj data fin => exact raising_accounted (write_accounted obj data fin)
  | read obj length => exact raising_accounted (read_accounted obj length)
  | endStream obj => exact raising_accounted (endStream_accounted obj)
  | reset obj errorCode => exact raising_accounted (reset_accounted obj errorCode)
  | getResetCode obj => exact quiet_accounted (getResetCode_ordinary obj)
  | getId obj => exact raising_accounted (getId_accounted obj)
  | isBidirectional obj => exact quiet_accounted (isBidirectional_ordinary obj)
  | getConnection obj => exact raising_accounted (getConnection_accounted obj)
  | asStream obj this => exact raising_accounted (asStream_accounted obj this)
  | freeStream obj => exact quiet_accounted (freeStream_ordinary obj)
  | opWrite obj buf => exact quiet_accounted (opWrite_ordinary obj buf)
  | opRead obj count => exact quiet_accounted (opRead_ordinary obj count)
  | opClose abstract =>
      exact quiet_accounted (.bind (releaseObject_ordinary abstract) fun _ => .pure _)
  | opFlush => exact quiet_accounted (.pure _)
  | opCast obj castas => exact quiet_accounted (opCast_ordinary obj castas)
  | poll items timeout => exact raising_accounted (poll_accounted items timeout)

/-! ### Sequences of operations -/

/-- One message that quotes the queue: the entry, the operation that raised it, and what it found in
the queue when it started. -/
structure Report where
  entry : ErrEntry
  operation : Nat
  leftover : List ErrEntry
  deriving DecidableEq

/-- The thread and all reports so far. -/
structure History where
  thread : Thread
  reports : List Report
  deriving DecidableEq

/-- A thread with an empty queue. -/
def History.start : History := ⟨⟨[], 0⟩, []⟩

/-- The reports after an operation that started in the given thread. -/
def History.noted (s : History) (thrown : Option Thrown) : List Report :=
  match thrown.bind Thrown.quoted with
  | none => s.reports
  | some entry => s.reports ++ [⟨entry, s.thread.operation, s.thread.queue⟩]

/-- One operation of the thread, with the exception it raises. -/
inductive OperationStep : History → Operation × Option Thrown → History → Prop
  | run {s : History} {op : Operation} {thrown : Option Thrown} {thread : Thread}
      (ran : Run errorQueue op.program s.thread thrown thread) :
      OperationStep s (op, thrown)
        ⟨{ thread with operation := s.thread.operation + 1 }, s.noted thrown⟩

/-- The report is of an error of its own operation. -/
def Report.Own (report : Report) : Prop := report.entry.operation = report.operation

/-- What holds of every history: the queue holds errors of finished operations, and a report is of
an error of its own operation exactly when nothing was left over for it. -/
structure History.Valid (s : History) : Prop where
  finished : ∀ entry ∈ s.thread.queue, entry.operation < s.thread.operation
  honest : ∀ report ∈ s.reports, report.Own ↔ report.leftover = []

/-- The first of the old and the new errors is new exactly when there is no old one. -/
theorem own_iff_of_grown {s middle : Thread} {entry : ErrEntry}
    (finished : ∀ entry ∈ s.queue, entry.operation < s.operation) (grown : Grown s middle)
    (head : middle.queue.head? = some entry) : entry.operation = s.operation ↔ s.queue = [] := by
  obtain ⟨new, rfl, own⟩ := grown
  obtain ⟨queue, operation⟩ := s
  cases queue with
  | nil => exact iff_of_true (own entry (List.mem_of_head? head)) rfl
  | cons first rest =>
      cases head
      exact iff_of_false (finished _ List.mem_cons_self).ne (List.cons_ne_nil _ _)

/-- What the operation queued is older than the next operation. -/
theorem Grown.finished {s s' : Thread} (grown : Grown s s')
    (finished : ∀ entry ∈ s.queue, entry.operation < s.operation + 1) :
    ∀ entry ∈ s'.queue, entry.operation < s.operation + 1 := by
  obtain ⟨new, rfl, own⟩ := grown
  intro entry member
  rcases List.mem_append.mp member with old | fresh
  · exact finished entry old
  · rw [own entry fresh]
    exact Nat.lt_succ_self _

/-- **A step of the extension keeps the history valid.** -/
theorem OperationStep.valid {s s' : History} {label : Operation × Option Thrown}
    (step : OperationStep s label s') (valid : s.Valid) : s'.Valid := by
  obtain ⟨ran⟩ := step
  rename_i op thrown thread
  have earlier : ∀ entry ∈ s.thread.queue, entry.operation < s.thread.operation + 1 :=
    fun entry member => (valid.finished entry member).trans (Nat.lt_succ_self _)
  have account : Account s.thread (thrown.bind Thrown.quoted) thread :=
    operation_accounted op s.thread thrown thread ran
  unfold History.noted
  cases quoted : thrown.bind Thrown.quoted with
  | none =>
      rw [quoted] at account
      exact ⟨account.finished earlier, valid.honest⟩
  | some entry =>
      rw [quoted] at account
      obtain ⟨middle, grown, head, left⟩ := account
      refine ⟨left.finished fun _ => (absurd · List.not_mem_nil), fun report member => ?_⟩
      rcases List.mem_append.mp member with old | fresh
      · exact valid.honest report old
      · cases List.mem_singleton.mp fresh
        exact own_iff_of_grown valid.finished grown head

/-- Every history a thread can have is valid. -/
theorem History.valid_of_path {labels : List (Operation × Option Thrown)} {s : History}
    (path : Path OperationStep .start labels s) : s.Valid :=
  path.invariant (fun _ _ _ valid step => step.valid valid)
    ⟨fun _ => (absurd · List.not_mem_nil), fun _ => (absurd · List.not_mem_nil)⟩

/-- **All messages speak of their own operation exactly when no reporting operation starts with an
error left behind by an earlier one.** -/
theorem reports_own_iff {labels : List (Operation × Option Thrown)} {s : History}
    (path : Path OperationStep .start labels s) :
    (∀ report ∈ s.reports, report.Own) ↔ ∀ report ∈ s.reports, report.leftover = [] := by
  have valid := History.valid_of_path path
  constructor
  · intro own report member
    exact (valid.honest report member).mp (own report member)
  · intro clean report member
    exact (valid.honest report member).mpr (clean report member)

/-! ### A leak -/

/-- An environment in which loading CAs and opening streams fails, each with an error of its own. -/
def failingHandler : Handler openssl Thread := fun s call =>
  match call with
  | .sslCtxLoadVerifyLocations .. => (0, { s with queue := s.queue ++ [⟨1, s.operation⟩] })
  | .sslNewStream .. => (none, { s with queue := s.queue ++ [⟨2, s.operation⟩] })
  | .errGetError => (s.queue.head?, { s with queue := s.queue.tail })
  | .errClearError => ((), { s with queue := [] })
  | call => (succeeding call, s)

theorem failingHandler_allowed (s : Thread) (call : Call) :
    errorQueue s call (failingHandler s call).1 (failingHandler s call).2 := by
  cases call with
  | errGetError => exact ⟨rfl, rfl⟩
  | errClearError => exact rfl
  | sslCtxLoadVerifyLocations ctx cafile capath =>
      exact ⟨_, rfl, fun entry member => by rw [List.mem_singleton.mp member]⟩
  | sslNewStream connection unidirectional =>
      exact ⟨_, rfl, fun entry member => by rw [List.mem_singleton.mp member]⟩
  | _ => exact Grown.refl s

/-- The operation, run in that environment. -/
theorem failing_step (s : History) (op : Operation) :
    OperationStep s (op, (exec failingHandler op.program s.thread).1)
      ⟨{ (exec failingHandler op.program s.thread).2 with operation := s.thread.operation + 1 },
        s.noted (exec failingHandler op.program s.thread).1⟩ :=
  .run (run_exec failingHandler_allowed _ _)

/-- `$connection->openStream()`, on a live connection. -/
def openOperation : Operation :=
  .openStream { quicConnectionCreate with ssl := some 1 } 1 true

/-- `new Quic\Connection('a.example', 443, ['alpn' => 'h3', 'cafile' => '/missing.pem'])`. -/
def unreadableCafile : Operation :=
  .newConnection 1 quicConnectionCreate (text "a.example") 443
    (some [(.name (text "alpn"), .string (text "h3")),
      (.name (text "cafile"), .string (text "/missing.pem"))])

/-- What a single failing `openStream()` reports. -/
def openReports : List Report :=
  History.start.noted (exec failingHandler openOperation.program History.start.thread).1

/-- It reports its own error. -/
theorem reports_own_example : openReports ≠ [] ∧ ∀ report ∈ openReports, report.Own := by
  refine ⟨by decide, ?_⟩
  exact (reports_own_iff (Path.single (failing_step .start openOperation))).mpr (by decide)

/-- **The constructor throws without draining the queue, and `openStream()` then reports the error of
the constructor.** -/
theorem reports_leak : ∃ labels s, Path OperationStep .start labels s ∧
    labels.map Prod.fst = [unreadableCafile, openOperation] ∧
    ∃ report ∈ s.reports, report.operation = 1 ∧ report.entry.operation = 0 := by
  refine ⟨_, _, .cons (failing_step .start unreadableCafile)
    (Path.single (failing_step _ openOperation)), rfl, ⟨⟨1, 0⟩, 1, [⟨1, 0⟩]⟩, by decide, rfl, rfl⟩

end PhpQuic
