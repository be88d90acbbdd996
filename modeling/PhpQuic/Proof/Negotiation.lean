/-
**The application protocol, from the two options arrays to the connection.**

A client has to offer its protocols before the handshake starts, and a listener has to be able to
answer before it listens. What each of them was told stands in its `alpn` option.

* `construct_offers`: whenever the client's constructor calls `SSL_connect`, the SSL object offers
  the protocols of its option.
* `construct_answers`: whenever the listener's constructor calls `SSL_listen`, the callback of its
  context has the protocols of its option.
* `application_protocol`: so the callback selects, for every client and every listener, the first
  protocol of the listener's option that the client's option has too; without one it refuses.
-/

import PhpQuic.Interact.Trace
import PhpQuic.Proof.AlpnList
import PhpQuic.Proof.Calls

namespace PhpQuic

open Interact

/-! ### What the engine knows -/

/-- The conversions of entries still to come, the list that each SSL object offers, the callback data
of each context, and the context of each listener. -/
structure Protocols where
  conversions : List Bytes
  offered : Ssl → Option Bytes
  answering : SslCtx → Option QuicAlpnData
  context : Ssl → Option SslCtx

/-- The effect of one call with its answer. A new SSL object offers nothing, a new context has no
callback. -/
def Protocols.update (s : Protocols) : (call : Call) → Answer call → Protocols
  | .zvalGetString _, _ => { s with conversions := s.conversions.tail }
  | .sslNew _, some ssl => { s with offered := Function.update s.offered ssl none }
  -- NOTE: 0 is success here.
  | .sslSetAlpnProtos ssl protos, rc =>
    { s with offered := if rc = 0 then Function.update s.offered ssl (some protos) else s.offered }
  | .sslCtxNew _, some ctx => { s with answering := Function.update s.answering ctx none }
  | .sslCtxSetAlpnSelectCb ctx data, _ =>
    { s with answering := Function.update s.answering ctx (some data) }
  | .sslNewListener ctx, some ssl =>
    { s with context := Function.update s.context ssl (some ctx) }
  | _, _ => s

/-- Any answers to any calls; the conversions give what they give. -/
def negotiating : Behaviour openssl Protocols := fun s call answer s' =>
  s' = s.update call answer ∧ match call, answer with
    | .zvalGetString _, string => string = s.conversions.headD []
    | _, _ => True

/-- The calls that neither tell the engine a protocol nor use one. -/
def Call.IsMute : Call → Prop
  | .zvalGetString _ | .sslNew _ | .sslSetAlpnProtos .. | .sslCtxNew _ | .sslCtxSetAlpnSelectCb ..
  | .sslNewListener _ | .sslConnect _ | .sslListen _ => False
  | _ => True

theorem negotiating_kept (s : Protocols) (call : Call) (answer : Answer call) (s' : Protocols)
    (mute : call.IsMute) (replied : negotiating s call answer s') : s' = s := by
  obtain ⟨rfl, -⟩ := replied
  cases call <;> first | rfl | exact mute.elim

section Mute

variable {α : Type} {p : Quic α}

theorem mute_of_context (only : Only Call.IsContext p) : Only Call.IsMute p :=
  only.mono fun call here => by cases call <;> trivial

theorem mute_of_socket (only : Only Call.IsSocket p) : Only Call.IsMute p :=
  only.mono fun call here => by cases call <;> trivial

theorem mute_of_throw (only : Only Call.IsThrow p) : Only Call.IsMute p :=
  only.mono fun call here => by cases call <;> trivial

theorem mute_of_cleanup (only : Only Call.IsCleanup p) : Only Call.IsMute p :=
  only.mono fun call here => by cases call <;> trivial

theorem mute_of_certificate (only : Only Call.IsCertificate p) : Only Call.IsMute p :=
  only.mono fun call here => by cases call <;> trivial

end Mute

/-! ### When a protocol is used -/

/-- A list that can be offered: at least one protocol, and nothing else. -/
def IsOffer (protocols : List Bytes) : Prop :=
  protocols ≠ [] ∧ ∀ proto ∈ protocols, IsProtocol proto

/-- A handshake starts with the offer, a listener listens with the answer. -/
def Announced (protocols : List Bytes) (s : Protocols) : Call → Prop
  | .sslConnect ssl => IsOffer protocols ∧ s.offered ssl = some (Wire.encode protocols)
  | .sslListen listener => IsOffer protocols ∧ ∃ data,
      (s.context listener).bind s.answering = some data ∧ data.alpn.bytes = Wire.encode protocols
  | _ => True

/-- Every handshake and every listening of the run is announced. -/
abbrev Announcing {α : Type} (protocols : List Bytes) (p : Quic α) (s : Protocols) : Prop :=
  Guarded negotiating (Announced protocols) p (fun _ _ => True) s

section Rules

variable {α β : Type} {protocols : List Bytes} {s : Protocols}

theorem announced_mute (s : Protocols) (call : Call) (mute : call.IsMute) :
    Announced protocols s call := by
  cases call <;> trivial

theorem announcing_of_mute {p : Quic α} (only : Only Call.IsMute p) : Announcing protocols p s :=
  .of_always only announced_mute fun _ _ _ => trivial

/-- Skip a part that tells nothing and uses nothing. -/
theorem skipMute {p : Quic α} {rest : α → Quic β} {post : β → Protocols → Prop}
    (only : Only Call.IsMute p)
    (second : ∀ value, Guarded negotiating (Announced protocols) (rest value) post s) :
    Guarded negotiating (Announced protocols) (p >>= rest) post s :=
  .skip only announced_mute negotiating_kept second

end Rules

/-! ### The option -/

/-- The specification that both constructors take: `alpn`, or `alpn_protocols` without one. -/
def alpnOption (options : Option HashTable) : Option Zval :=
  (findOption options "alpn").orElse fun _ => findOption options "alpn_protocols"

/-- The protocols of an options array, given what the entries of a list convert to. -/
def optionProtocols (options : Option HashTable) (converted : List Bytes) : List Bytes :=
  (alpnOption options).elim [] (alpnProtocols · converted)

/-- What the conversions give is all that the encoder sees of the environment. -/
theorem negotiating_converts {s s' : Protocols} {call : Call} {answer : Answer call}
    (replied : negotiating s call answer s') :
    converting s.conversions call answer s'.conversions := by
  obtain ⟨rfl, told⟩ := replied
  cases call with
  | zvalGetString value => exact ⟨told, rfl⟩
  | sslNew _ | sslNewListener _ | sslCtxNew _ => cases answer <;> rfl
  | _ => rfl

/-- **The encoder in this environment.** -/
theorem alpnFromZval_announces {spec : Zval} {converted more : List Bytes} {protocols : List Bytes}
    {s : Protocols} (whole : Converts spec converted) (reads : s.conversions = converted ++ more) :
    Guarded negotiating (Announced protocols) (phpQuicAlpnFromZval spec)
      (fun result _ => ∀ alpn, result = .ok alpn → IsOffer (alpnProtocols spec converted) ∧
        alpn.bytes = Wire.encode (alpnProtocols spec converted)) s := by
  refine .of_always (phpQuicAlpnFromZval_calls spec) (fun s call here => by cases call <;> trivial)
    fun result s' run alpn made => ?_
  have encodes := run.map Protocols.conversions fun _ _ _ _ => negotiating_converts
  rw [reads] at encodes
  obtain ⟨accepts, bytes⟩ :=
    (phpQuicAlpnFromZval_result spec converted whole more result _ encodes).ok_iff
  obtain ⟨nonempty, valid, -⟩ := accepts.mp ⟨alpn, made⟩
  exact ⟨⟨nonempty, valid⟩, bytes alpn made⟩

/-! ### The client -/

section Client

variable {protocols : List Bytes} {alpn : ZendString} {s : Protocols}

/-- The cast of the length to `unsigned int` loses nothing of a short list. -/
theorem castLength_of_short {bytes : Bytes} (short : bytes.length ≤ 65535) :
    castLength bytes = bytes := by
  rw [castLength, Nat.mod_eq_of_lt (by omega), List.take_length]

/-- Once the SSL object is prepared, it offers the encoded list. -/
theorem prepareSsl_offers (short : alpn.bytes.length ≤ 65535) (ssl : Ssl) (fd : Fd) (peer : BioAddr)
    (host : Bytes) (setup : PhpQuicTlsSetup) :
    Guarded negotiating (Announced protocols) (Connection.prepareSsl ssl fd alpn peer host setup)
      (fun ready s' => ready = true → s'.offered ssl = some alpn.bytes) s := by
  refine skipMute (.call trivial) fun bio => ?_
  cases bio with
  | none => exact .pure fun ready => absurd ready Bool.false_ne_true
  | some bio =>
      refine skipMute (.call trivial) fun _ => .ask_bind trivial fun rc s₁ replied => ?_
      refine .ite (fun _ => .pure fun ready => absurd ready Bool.false_ne_true) fun worked => ?_
      have offers : s₁.offered ssl = some alpn.bytes := by
        obtain ⟨rfl, -⟩ := replied
        simp only [Protocols.update]
        rw [if_pos (not_not.mp worked), castLength_of_short short]
        exact Function.update_self ssl _ _
      refine skipMute (.call trivial) fun _ => .ite (fun _ => .pure fun _ => offers) fun _ => ?_
      refine skipMute (.ite (.call trivial) (.pure _)) fun _ => .ite (fun _ => .pure fun _ => offers)
        fun _ => ?_
      exact skipMute (.ite (.call trivial) (.pure _)) fun _ => .pure fun _ => offers

theorem handshake_offers (offer : IsOffer protocols) {ssl : Ssl}
    (offered : s.offered ssl = some (Wire.encode protocols)) (fuel : Nat) (fd : Fd) (host : Bytes)
    (port connectTimeoutMs : Int) :
    Announcing protocols (Connection.handshake fuel ssl fd host port connectTimeoutMs) s := by
  suffices kept : Guarded negotiating (Announced protocols)
      (Connection.handshake fuel ssl fd host port connectTimeoutMs)
      (fun _ s' => s'.offered ssl = some (Wire.encode protocols)) s from
    kept.mono fun _ _ _ => trivial
  refine .of_invariant (handshake_calls fuel ssl fd host port connectTimeoutMs)
    (fun s call offered here => ?_) (fun s call answer s' offered here replied => ?_) offered
  · cases call with
    | sslConnect handle =>
        obtain rfl : handle = ssl := here.elim id False.elim
        exact ⟨offer, offered⟩
    | sslListen _ => exact here.elim False.elim False.elim
    | _ => trivial
  · obtain ⟨rfl, -⟩ := replied
    cases call <;> first | exact offered | exact here.elim False.elim False.elim

theorem sslError_mute (peer : BioAddr) (ssl : Option Ssl) (ctx : Option SslCtx) (fd : Fd) :
    Only Call.IsMute (Connection.sslError alpn peer ssl ctx fd) :=
  .bind (mute_of_throw (phpQuicThrowSsl_calls _)) fun _ =>
    .bind (mute_of_cleanup (connectionCleanup_calls alpn peer ssl ctx fd)) fun _ => .pure _

theorem establish_offers (offer : IsOffer protocols) (encoded : alpn.bytes = Wire.encode protocols)
    (short : (Wire.encode protocols).length ≤ 65535) (fuel : Nat) (obj : PhpQuicConnection)
    (ssl : Ssl) (fd : Fd) (peer : BioAddr) (host : Bytes)
    (port idleTimeoutMs connectTimeoutMs : Int) (options : Option HashTable)
    (setup : PhpQuicTlsSetup) :
    Announcing protocols (Connection.establish fuel obj ssl fd alpn peer host port idleTimeoutMs
      connectTimeoutMs options setup) s := by
  refine .bind (prepareSsl_offers (encoded ▸ short) ssl fd peer host setup) fun ready s₁ offers => ?_
  refine .ite (fun _ => announcing_of_mute (.bind (sslError_mute peer _ _ fd) fun _ => .pure _))
    fun worked => ?_
  have offered : s₁.offered ssl = some (Wire.encode protocols) :=
    encoded ▸ offers (by simpa using worked)
  refine skipMute (.ite (.call trivial) (.pure _)) fun _ => ?_
  refine skipMute (.bind (.call trivial) fun _ => .call trivial) fun _ => ?_
  refine .bind (handshake_offers offer offered fuel fd host port connectTimeoutMs)
    fun shaken s₂ _ => announcing_of_mute ?_
  have cleans : Only Call.IsMute (Connection.cleanup alpn peer (some ssl) none fd) :=
    mute_of_cleanup (connectionCleanup_calls alpn peer _ _ fd)
  rcases shaken with _ | thrown | ⟨⟩
  · exact .pure _
  · exact .bind cleans fun _ => .pure _
  · refine .bind_except (mute_of_certificate (checkPinning_calls ssl options))
      (fun _ => .bind cleans fun _ => .pure _) fun _ => ?_
    exact .bind (.call trivial) fun _ => .bind (.call trivial) fun _ => .pure _

theorem createSsl_offers (offer : IsOffer protocols) (encoded : alpn.bytes = Wire.encode protocols)
    (short : (Wire.encode protocols).length ≤ 65535) (fuel : Nat) (obj : PhpQuicConnection)
    (fd : Fd) (peer : BioAddr) (host : Bytes) (port idleTimeoutMs connectTimeoutMs : Int)
    (options : Option HashTable) :
    Announcing protocols (Connection.createSsl fuel obj fd alpn peer host port idleTimeoutMs
      connectTimeoutMs options) s := by
  have failed (ctx : Option SslCtx) (s : Protocols) : Announcing protocols (do
      return some (.error (← Connection.sslError alpn peer none ctx fd)) :
        Quic (Option (Outcome PhpQuicConnection))) s :=
    announcing_of_mute (.bind (sslError_mute peer none ctx fd) fun _ => .pure _)
  refine .ask_bind trivial fun ctx s₁ _ => ?_
  cases ctx with
  | none => exact failed none s₁
  | some ctx =>
      refine skipMute (mute_of_context (phpQuicConfigureCtx_calls ctx options false))
        fun configured => ?_
      cases configured with
      | error errbuf =>
          exact announcing_of_mute (.bind (phpQuicThrow_calls _ _) fun _ =>
            .bind (mute_of_cleanup (connectionCleanup_calls alpn peer _ _ fd)) fun _ => .pure _)
      | ok setup =>
          refine .ask_bind trivial fun ssl s₂ _ => ?_
          cases ssl with
          | none => exact failed (some ctx) s₂
          | some ssl =>
              exact skipMute (.call trivial) fun _ => establish_offers offer encoded short fuel obj
                ssl fd peer host port idleTimeoutMs connectTimeoutMs options setup

end Client

/-- What the options array says of the protocols is read as it stands. -/
theorem readOptions_spec (options : Option HashTable) :
    Returns (fun result => result.1 = alpnOption options) (Connection.readOptions options) :=
  .bind_any fun _ => .bind_any fun _ => .pure rfl

/-- **The client's constructor offers before it connects.** -/
theorem construct_offers {options : Option HashTable} {converted more : List Bytes} {s : Protocols}
    (whole : ∀ spec ∈ alpnOption options, Converts spec converted)
    (short : (Wire.encode (optionProtocols options converted)).length ≤ 65535)
    (reads : s.conversions = converted ++ more) (fuel : Nat) (obj : PhpQuicConnection)
    (host : Bytes) (port : Int) :
    Announcing (optionProtocols options converted)
      (Connection.construct fuel obj host port options) s := by
  have refused (message : Bytes) (s : Protocols) :
      Announcing (optionProtocols options converted) (do
        return some (.error (← phpQuicThrow message)) :
          Quic (Option (Outcome PhpQuicConnection))) s :=
    announcing_of_mute (.bind (phpQuicThrow_calls _ message) fun _ => .pure _)
  refine .ite (fun _ => refused _ s) fun _ => .ite (fun _ => refused _ s) fun _ =>
    .ite (fun _ => refused _ s) fun _ => ?_
  have options' := mute_of_context (readOptions_context options)
  refine .bind (.of_always options' announced_mute <|
    (Always.of_unchanged options' negotiating_kept s).and fun _ _ run =>
      (readOptions_spec options).of_run run) fun ⟨spec, idle, timeout⟩ s₁ ⟨same, asked⟩ => ?_
  obtain rfl : s₁ = s := same
  obtain rfl : spec = alpnOption options := asked
  cases given : alpnOption options with
  | none => exact refused _ s₁
  | some spec =>
      have listed : optionProtocols options converted = alpnProtocols spec converted := by
        rw [optionProtocols, given, Option.elim_some]
      rw [listed] at short refused ⊢
      refine .bind (alpnFromZval_announces (whole spec given) reads) fun encoded s₂ encodes => ?_
      cases encoded with
      | error errbuf => exact refused _ s₂
      | ok alpn =>
          obtain ⟨offer, bytes⟩ := encodes alpn rfl
          refine skipMute (mute_of_socket (phpQuicUdpClient_calls host (decimal port)))
            fun opened => ?_
          cases opened with
          | error errbuf => exact skipMute (.call trivial) fun _ => refused _ s₂
          | ok socket =>
              exact createSsl_offers offer bytes short fuel obj socket.1 socket.2 host port idle
                timeout options

/-! ### The listener -/

section Listener

variable {protocols : List Bytes} {alpn : ZendString} {s : Protocols}

theorem listenerCleanup_mute (owner : Listener.AlpnOwner) (ssl : Option Ssl) (ctx : Option SslCtx)
    (fd : Fd) : Only Call.IsMute (Listener.cleanup owner ssl ctx fd) := by
  have releases : Only Call.IsMute (Listener.releaseAlpn owner) := by
    cases owner with
    | string alpn => exact .call trivial
    | data adata => exact .bind (.call trivial) fun _ => .call trivial
  exact .bind releases fun _ => .bind (mute_of_cleanup (freeSsl_calls ssl)) fun _ =>
    .bind (mute_of_cleanup (freeCtx_calls ctx)) fun _ => .call trivial

theorem listenerError_announces (owner : Listener.AlpnOwner) (ssl : Option Ssl)
    (ctx : Option SslCtx) (fd : Fd) : Announcing protocols (do
      return .error (← Listener.sslError owner ssl ctx fd) : Quic (Outcome PhpQuicListener)) s :=
  announcing_of_mute (.bind (.bind (mute_of_throw (phpQuicThrowSsl_calls _)) fun _ =>
    .bind (listenerCleanup_mute owner ssl ctx fd) fun _ => .pure _) fun _ => .pure _)

/-- The callback is in place before the listener is made, and the listener is one of its context. -/
theorem startListening_answers (offer : IsOffer protocols)
    (encoded : alpn.bytes = Wire.encode protocols) (fd : Fd) (ctx : SslCtx) (host : Bytes)
    (port : Int) : Announcing protocols (Listener.startListening fd ctx alpn host port) s := by
  refine skipMute (.call trivial) fun id => .ask_bind trivial fun _ s₁ registered => ?_
  refine .ask_bind trivial fun listener s₂ made => ?_
  cases listener with
  | none => exact listenerError_announces _ none (some ctx) fd
  | some listener =>
      refine skipMute (.call trivial) fun bio => ?_
      cases bio with
      | none => exact listenerError_announces _ (some listener) (some ctx) fd
      | some bio =>
          have answering : (s₂.context listener).bind s₂.answering = some ⟨id, alpn⟩ := by
            obtain ⟨rfl, -⟩ := registered
            obtain ⟨rfl, -⟩ := made
            simp only [Protocols.update, Function.update_self, Option.bind_some]
          refine skipMute (.call trivial) fun _ =>
            .ask_bind ⟨offer, _, answering, encoded⟩ fun rc s₃ _ => ?_
          refine announcing_of_mute (.ite ?_ (.pure _))
          exact .bind (mute_of_throw (phpQuicThrowSsl_calls _)) fun _ =>
            .bind (listenerCleanup_mute _ _ _ fd) fun _ => .pure _

end Listener

/-- **The listener's constructor can answer before it listens.** -/
theorem construct_answers {options : HashTable} {converted more : List Bytes} {s : Protocols}
    (whole : ∀ spec ∈ alpnOption (some options), Converts spec converted)
    (reads : s.conversions = converted ++ more) (obj : PhpQuicListener) (host : Bytes)
    (port : Int) :
    Announcing (optionProtocols (some options) converted)
      (Listener.construct obj host port options) s := by
  have refused (message : Bytes) (s : Protocols) :
      Announcing (optionProtocols (some options) converted)
        (throwing (phpQuicThrow message) : Quic (Outcome PhpQuicListener)) s :=
    announcing_of_mute (throwing_calls (phpQuicThrow_calls _ message))
  refine .ite (fun _ => refused _ s) fun _ => .ite (fun _ => refused _ s) fun _ =>
    .ite (fun _ => refused _ s) fun _ => ?_
  dsimp only
  cases asked : (findOption (some options) "alpn").orElse fun _ =>
      findOption (some options) "alpn_protocols" with
  | none => exact refused _ s
  | some spec =>
      have given : alpnOption (some options) = some spec := asked
      have listed : optionProtocols (some options) converted = alpnProtocols spec converted := by
        rw [optionProtocols, given, Option.elim_some]
      rw [listed] at refused ⊢
      refine .bind (alpnFromZval_announces (whole spec given) reads) fun encoded s₁ encodes => ?_
      cases encoded with
      | error errbuf => exact refused _ s₁
      | ok alpn =>
          obtain ⟨offer, bytes⟩ := encodes alpn rfl
          refine skipMute (mute_of_socket (phpQuicUdpServer_calls host (decimal port) _))
            fun opened => ?_
          cases opened with
          | error errbuf => exact skipMute (.call trivial) fun _ => refused _ s₁
          | ok fd =>
              refine .ask_bind trivial fun ctx s₂ _ => ?_
              cases ctx with
              | none => exact listenerError_announces _ none none fd
              | some ctx =>
                  refine skipMute (mute_of_context (phpQuicConfigureCtx_calls ctx _ true))
                    fun configured => ?_
                  cases configured with
                  | error errbuf =>
                      exact announcing_of_mute (.bind (phpQuicThrow_calls _ _) fun _ =>
                        .bind (listenerCleanup_mute _ _ _ fd) fun _ => .pure _)
                  | ok setup => exact startListening_answers offer bytes fd ctx host port

/-! ### Both ends -/

/-- A client with these options starts a handshake, and its SSL object offers `offer`. -/
inductive Dials (options : Option HashTable) (converted : List Bytes) : Option Bytes → Prop
  | connects {fuel : Nat} {obj : PhpQuicConnection} {host : Bytes} {port : Int} {s s' : Protocols}
      {more : List Bytes} {result : Option (Outcome PhpQuicConnection)}
      {exchanges : List (Exchange openssl Protocols)} {exchange : Exchange openssl Protocols}
      {ssl : Ssl} (reads : s.conversions = converted ++ more)
      (trace : Trace negotiating (Connection.construct fuel obj host port options) s exchanges
        result s')
      (member : exchange ∈ exchanges) (called : exchange.call = .sslConnect ssl) :
      Dials options converted (exchange.before.offered ssl)

/-- A listener with these options starts to listen, and the callback of its context has `data`. -/
inductive Listens (options : HashTable) (converted : List Bytes) : Option QuicAlpnData → Prop
  | listens {obj : PhpQuicListener} {host : Bytes} {port : Int} {s s' : Protocols}
      {more : List Bytes} {outcome : Outcome PhpQuicListener}
      {exchanges : List (Exchange openssl Protocols)} {exchange : Exchange openssl Protocols}
      {listener : Ssl} (reads : s.conversions = converted ++ more)
      (trace : Trace negotiating (Listener.construct obj host port options) s exchanges outcome s')
      (member : exchange ∈ exchanges) (called : exchange.call = .sslListen listener) :
      Listens options converted ((exchange.before.context listener).bind exchange.before.answering)

section Ends

variable {converted : List Bytes}

theorem Dials.offers {options : Option HashTable} {offer : Option Bytes}
    (dials : Dials options converted offer)
    (whole : ∀ spec ∈ alpnOption options, Converts spec converted)
    (short : (Wire.encode (optionProtocols options converted)).length ≤ 65535) :
    IsOffer (optionProtocols options converted) ∧
      offer = some (Wire.encode (optionProtocols options converted)) := by
  cases dials with
  | connects reads trace member called =>
      have announced := ((construct_offers whole short reads _ _ _ _).trace trace).1 _ member
      rw [called] at announced
      exact announced

theorem Listens.answers {options : HashTable} {data : Option QuicAlpnData}
    (listens : Listens options converted data)
    (whole : ∀ spec ∈ alpnOption (some options), Converts spec converted) :
    IsOffer (optionProtocols (some options) converted) ∧ ∃ adata, data = some adata ∧
      adata.alpn.bytes = Wire.encode (optionProtocols (some options) converted) := by
  cases listens with
  | listens reads trace member called =>
      have announced := ((construct_answers whole reads _ _ _).trace trace).1 _ member
      rw [called] at announced
      exact announced

theorem IsOffer.decode {protocols : List Bytes} (offer : IsOffer protocols) :
    Wire.decode (Wire.encode protocols) = some protocols :=
  Wire.decode_encode fun proto member => (offer.2 proto member).2

end Ends

/-- **The application protocol follows from the two options arrays.** Whenever a client starts a
handshake and a listener listens, the client offers, the listener has a callback, and the callback
selects, from what the client offers, the first protocol of the listener's option that the client's
option has too. Without one it refuses the handshake. -/
theorem application_protocol {select : Bytes → Bytes → NextProto × Bytes} (walks : WalksLists select)
    {clientOptions : Option HashTable} {serverOptions : HashTable}
    {clientConverted serverConverted : List Bytes} {offer : Option Bytes}
    {data : Option QuicAlpnData} (client : Dials clientOptions clientConverted offer)
    (server : Listens serverOptions serverConverted data)
    (clientWhole : ∀ spec ∈ alpnOption clientOptions, Converts spec clientConverted)
    (serverWhole : ∀ spec ∈ alpnOption (some serverOptions), Converts spec serverConverted)
    (clientShort : (Wire.encode (optionProtocols clientOptions clientConverted)).length ≤ 65535)
    (serverShort :
      (Wire.encode (optionProtocols (some serverOptions) serverConverted)).length ≤ 65535) :
    ∃ bytes adata, offer = some bytes ∧ data = some adata ∧
      chosenProtocol (quicAlpnSelectCb select adata bytes) =
        (optionProtocols (some serverOptions) serverConverted).find?
          (· ∈ optionProtocols clientOptions clientConverted) ∧
      ((∀ proto ∈ optionProtocols (some serverOptions) serverConverted,
          proto ∉ optionProtocols clientOptions clientConverted) →
        (quicAlpnSelectCb select adata bytes).1 = .alertFatal) := by
  obtain ⟨offers, rfl⟩ := client.offers clientWhole clientShort
  obtain ⟨answers, adata, rfl, encoded⟩ := server.answers serverWhole
  refine ⟨_, adata, rfl, rfl, ?_⟩
  rcases quicAlpnSelectCb_cases walks (encoded ▸ serverShort) answers.2 offers.2
    (encoded ▸ answers.decode) offers.decode with ⟨proto, found, answered⟩ | ⟨none_found, answered⟩
  · rw [answered, found]
    refine ⟨rfl, fun apart => ?_⟩
    have common : proto ∈ optionProtocols clientOptions clientConverted := by
      simpa using List.find?_some found
    exact absurd common (apart proto (List.mem_of_find?_eq_some found))
  · refine ⟨?_, fun _ => answered⟩
    rw [none_found]
    generalize quicAlpnSelectCb select adata _ = answer at answered
    obtain ⟨code, out⟩ := answer
    obtain rfl : code = .alertFatal := answered
    rfl

/-! ### Two lists -/

/-- An environment in which every call works, and the conversions are known beforehand. -/
def protocolsHandler : Handler openssl Protocols := fun s call =>
  match call with
  | .zvalGetString value => (s.conversions.headD [], s.update (.zvalGetString value) [])
  | call => (succeeding call, s.update call (succeeding call))

theorem protocolsHandler_allowed (s : Protocols) (call : Call) :
    negotiating s call (protocolsHandler s call).1 (protocolsHandler s call).2 := by
  cases call <;> exact ⟨rfl, by first | rfl | trivial⟩

/-- Nothing was told yet. -/
def unasked : Protocols := ⟨[], fun _ => none, fun _ => none, fun _ => none⟩

/-- A client that prefers HTTP/2. -/
def clientList : Option HashTable := some [(.name (text "alpn"), .string (text "doq, h2,h3"))]

/-- A server that prefers HTTP/3. -/
def serverList : HashTable :=
  [(.name (text "alpn"), .string (text "h3,h2")), (.name (text "local_cert"), .string (text "c.pem"))]

/-- The server's order decides. -/
theorem application_protocol_example : ∃ bytes adata,
    Dials clientList [] (some bytes) ∧ Listens serverList [] (some adata) ∧
      chosenProtocol (quicAlpnSelectCb walkLists adata bytes) = some (text "h3") := by
  have dialling := trace_exec protocolsHandler_allowed
    (Connection.construct 1 quicConnectionCreate (text "host") 443 clientList) unasked
  have listening := trace_exec protocolsHandler_allowed
    (Listener.construct quicListenerCreate [] 443 serverList) unasked
  have silent : unasked.conversions = [] ++ [] := rfl
  obtain ⟨dial, dialled, connects⟩ : ∃ exchange, (evaluated protocolsHandler
      (Connection.construct 1 quicConnectionCreate (text "host") 443 clientList) unasked)[21]? =
      some exchange ∧ exchange.call = .sslConnect 1 := ⟨_, rfl, rfl⟩
  obtain ⟨listen, listened, listens⟩ : ∃ exchange, (evaluated protocolsHandler
      (Listener.construct quicListenerCreate [] 443 serverList) unasked)[16]? =
      some exchange ∧ exchange.call = .sslListen 1 := ⟨_, rfl, rfl⟩
  have client : Dials clientList [] _ :=
    .connects silent dialling (List.mem_of_getElem? dialled) connects
  have server : Listens serverList [] _ :=
    .listens silent listening (List.mem_of_getElem? listened) listens
  obtain ⟨bytes, adata, offered, answering, chosen, -⟩ := application_protocol walkLists_walks client
    server (fun spec given => Option.mem_some.mp given ▸ trivial)
    (fun spec given => Option.mem_some.mp given ▸ trivial) (by decide) (by decide)
  exact ⟨bytes, adata, offered ▸ client, answering ▸ server, chosen⟩

end PhpQuic
