/-
**Error codes and reasons, from one end of a connection to the other.**

`close()` and `reset()` hand OpenSSL a code as `uint64_t`, `close()` also a reason as a C string. A
code travels as a variable-length integer of at most 62 bits; of a reason as much travels as there is
`room` for in a packet. `getCloseInfo()` and `getResetCode()` of the peer read them back.

* `CloseCrosses`, `ResetCrosses`: OpenSSL is handed exactly what PHP passed, and a peer that gets the
  frame returns exactly that.
* `codes_cross_iff`: they hold exactly for codes from 0 to 2 ^ 62 - 1, and reasons without NUL bytes
  that fit.
* `codes_garbled`: a code of -1 is handed over as 2 ^ 64 - 1, the reason "a\0b" as "a".
-/

import PhpQuic.Proof.Calls
import PhpQuic.Openssl.Environment
import Mathlib.Data.List.TakeDrop

namespace PhpQuic

open Interact

/-- The values of a QUIC variable-length integer. -/
def varintLimit : Nat := 2 ^ 62

/-! ### The sending end -/

/-- `SSL_SHUTDOWN_EX_ARGS`. -/
structure ShutdownArgs where
  errorCode : Nat
  reason : Option Bytes
  deriving DecidableEq

/-- What OpenSSL was handed so far. -/
structure Handed where
  closes : List ShutdownArgs
  resets : List Nat
  deriving DecidableEq

def Handed.nothing : Handed := ⟨[], []⟩

/-- The record of one call. -/
def Handed.after (s : Handed) : Call → Handed
  | .sslShutdownEx _ errorCode reason => { s with closes := s.closes ++ [⟨errorCode, reason⟩] }
  | .sslStreamReset _ errorCode => { s with resets := s.resets ++ [errorCode] }
  | _ => s

/-- OpenSSL at the sending end, whatever it answers. -/
def handing : Behaviour openssl Handed := fun s call _ s' => s' = s.after call

/-- The code OpenSSL is handed is the one PHP passed, and one that can travel. -/
structure CodeWhole (passed : Int) (handed : Nat) : Prop where
  valid : handed < varintLimit
  same : (handed : Int) = passed

/-- The C string OpenSSL is handed stands for the whole reason. -/
def ReasonWhole (passed : Bytes) (handed : Option Bytes) : Prop := handed.getD [] = passed

/-! ### The receiving end -/

/-- What the engine of the peer knows: how the connection was closed, and the codes with which the
parts of a stream were reset. -/
structure Arrived where
  closeInfo : Option ConnCloseInfo
  readCode : Option Nat
  writeCode : Option Nat
  deriving DecidableEq

/-- The queries look at it. -/
def arriving (t : Arrived) : (call : Call) → Answer call → Arrived → Prop
  | .sslGetConnCloseInfo _, info, t' => info = t.closeInfo ∧ t' = t
  | .sslGetStreamReadErrorCode _, code, t' => code = t.readCode ∧ t' = t
  | .sslGetStreamWriteErrorCode _, code, t' => code = t.writeCode ∧ t' = t
  | _, _, t' => t' = t

/-- The peer got the CONNECTION_CLOSE frame of that call. -/
def CloseArrives (room : Nat) (args : ShutdownArgs) (t : Arrived) : Prop :=
  args.errorCode < varintLimit ∧ ∃ info, t.closeInfo = some info ∧
    info.errorCode = args.errorCode ∧ info.reason.getD [] = (args.reason.getD []).take room ∧
    info.isLocal = false ∧ info.isTransport = false

/-- The peer got the RESET_STREAM frame of that call. -/
def ResetArrives (errorCode : Nat) (t : Arrived) : Prop :=
  errorCode < varintLimit ∧ t.readCode = some errorCode

/-! ### From end to end -/

/-- **`close()` gets its arguments across.** -/
def CloseCrosses (room : Nat) (obj : PhpQuicConnection) (errorCode : Int) (reason : Bytes) : Prop :=
  Always handing (Connection.close obj errorCode reason) (fun _ s => ∃ args, s.closes = [args] ∧
    CodeWhole errorCode args.errorCode ∧ ReasonWhole reason args.reason ∧
    ∀ t, CloseArrives room args t → ∀ peer : PhpQuicConnection, peer.ssl.isSome →
      Always arriving (Connection.getCloseInfo peer) (fun result _ =>
        ∃ info, result = some info ∧ info.errorCode = errorCode ∧ info.reason = reason) t) .nothing

/-- After `reset()`: it threw and handed nothing over, or its argument gets across. -/
def ResetGoes (errorCode : Int) (outcome : Outcome Unit) (s : Handed) : Prop :=
  (∃ thrown, outcome = .error thrown) ∧ s = .nothing ∨
    ∃ handed, s.resets = [handed] ∧ CodeWhole errorCode handed ∧
    ∀ t, ResetArrives handed t → ∀ peer : PhpQuicStream, peer.ssl.isSome →
      Always arriving (Stream.getResetCode peer) (fun code _ => code = some errorCode) t

/-- **`reset()` gets its argument across.** -/
def ResetCrosses (obj : PhpQuicStream) (errorCode : Int) : Prop :=
  Always handing (Stream.reset obj errorCode) (ResetGoes errorCode) .nothing

/-- The codes that can travel. -/
def CodeFits (errorCode : Int) : Prop := 0 ≤ errorCode ∧ errorCode < 2 ^ 62

/-! ### The casts -/

theorem codeWhole_toUint64_iff (errorCode : Int) :
    CodeWhole errorCode (Stream.toUint64 errorCode) ↔ CodeFits errorCode := by
  unfold CodeFits
  constructor
  · rintro ⟨valid, same⟩
    unfold varintLimit at valid
    omega
  · rintro ⟨least, most⟩
    have kept : Stream.toUint64 errorCode = errorCode.toNat := by
      rw [Stream.toUint64, Int.emod_eq_of_lt least (by omega)]
    exact ⟨by unfold varintLimit; omega, by omega⟩

/-- What can travel comes back as it was. -/
theorem CodeWhole.returned {errorCode : Int} {handed : Nat} (whole : CodeWhole errorCode handed) :
    Stream.toZendLong handed = errorCode := by
  obtain ⟨valid, rfl⟩ := whole
  unfold varintLimit at valid
  unfold Stream.toZendLong
  exact Int.bmod_eq_of_le (by omega) (by omega)

/-- The reason as `close()` hands it over. -/
def quicReason (reason : Bytes) : Option Bytes :=
  if 0 < reason.length then some (cString reason) else none

theorem reasonWhole_quicReason_iff (reason : Bytes) :
    ReasonWhole reason (quicReason reason) ↔ NulFree reason := by
  unfold ReasonWhole quicReason
  cases reason with
  | nil => exact iff_of_true rfl List.not_mem_nil
  | cons byte rest =>
      rw [if_pos (List.length_pos_of_ne_nil (List.cons_ne_nil _ _)), Option.getD_some]
      exact ⟨fun same => same ▸ cString_nulFree _, cString_eq_self⟩

/-! ### What the ends do -/

variable {ssl : Ssl} {errorCode : Int} {reason : Bytes} {room : Nat}

/-- An open connection hands its arguments over. -/
theorem close_hands {obj : PhpQuicConnection} (owned : obj.ssl = some ssl)
    (opened : obj.closed = false) {post : PhpQuicConnection → Handed → Prop} :
    Always handing (Connection.close obj errorCode reason) post .nothing ↔
      post { obj with closed := true }
        ⟨[⟨Stream.toUint64 errorCode, quicReason reason⟩], []⟩ := by
  simp only [Connection.close, owned, opened]
  refine always_call_bind.trans ⟨fun always => ?_, ?_⟩
  · exact always_pure.mp (always (1 : Int) _ rfl)
  · rintro holds _ _ rfl
    exact .pure holds

theorem getCloseInfo_arrived {peer : PhpQuicConnection} (live : peer.ssl.isSome) {t : Arrived}
    {info : ConnCloseInfo} (arrived : t.closeInfo = some info)
    {post : Option Connection.CloseInfo → Arrived → Prop} :
    Always arriving (Connection.getCloseInfo peer) post t ↔ post (some {
      errorCode := Stream.toZendLong info.errorCode
      frameType := Stream.toZendLong info.frameType
      reason := info.reason.getD []
      isLocal := info.isLocal
      isTransport := info.isTransport }) t := by
  obtain ⟨ssl, owned⟩ := Option.isSome_iff_exists.mp live
  simp only [Connection.getCloseInfo, owned]
  refine always_call_bind.trans ⟨fun always => ?_, ?_⟩
  · exact always_pure.mp (always (some info) t ⟨arrived.symm, rfl⟩)
  · rintro holds _ _ ⟨rfl, rfl⟩
    rw [arrived]
    exact .pure holds

theorem getResetCode_arrived {peer : PhpQuicStream} (live : peer.ssl.isSome) {t : Arrived}
    {handed : Nat} (arrived : t.readCode = some handed) :
    Always arriving (Stream.getResetCode peer)
      (fun code _ => code = some (Stream.toZendLong handed)) t := by
  obtain ⟨ssl, owned⟩ := Option.isSome_iff_exists.mp live
  simp only [Stream.getResetCode, owned]
  refine always_call_bind.mpr ?_
  rintro _ _ ⟨rfl, rfl⟩
  rw [arrived]
  exact .pure rfl

/-- Raising an exception hands nothing over. -/
theorem thrown_unhanded (s : Handed) (call : Call) (answer : Answer call) (s' : Handed)
    (throws : call.IsThrow) (allowed : handing s call answer s') : s' = s := by
  refine allowed.trans ?_
  cases call <;> first | rfl | exact throws.elim

/-! ### Exactly when -/

/-- A peer that got the frame. -/
def closedBy (room : Nat) (args : ShutdownArgs) : Arrived :=
  ⟨some ⟨args.errorCode, 0, some ((args.reason.getD []).take room), false, false⟩, none, none⟩

theorem closedBy_arrives {args : ShutdownArgs} (valid : args.errorCode < varintLimit) :
    CloseArrives room args (closedBy room args) := ⟨valid, _, rfl, rfl, rfl, rfl, rfl⟩

theorem closeCrosses_iff {obj : PhpQuicConnection} (owned : obj.ssl = some ssl)
    (opened : obj.closed = false) :
    CloseCrosses room obj errorCode reason ↔
      CodeFits errorCode ∧ NulFree reason ∧ reason.length ≤ room := by
  rw [CloseCrosses, close_hands owned opened, ← codeWhole_toUint64_iff,
    ← reasonWhole_quicReason_iff]
  constructor
  · rintro ⟨args, same, code, whole, crosses⟩
    obtain rfl := List.singleton_inj.mp same
    refine ⟨code, whole, ?_⟩
    have returned := crosses _ (closedBy_arrives code.valid) obj (owned ▸ rfl)
    obtain ⟨info, same, -, kept⟩ := (getCloseInfo_arrived (owned ▸ rfl) rfl).mp returned
    obtain rfl := Option.some.inj same
    have sent : (quicReason reason).getD [] = reason := whole
    rw [← List.take_eq_self_iff reason]
    exact (congrArg (List.take room) sent.symm).trans kept
  · rintro ⟨code, whole, fits⟩
    refine ⟨_, rfl, code, whole, fun t arrives peer live => ?_⟩
    obtain ⟨-, info, arrived, sameCode, sameReason, -⟩ := arrives
    have returned := code.returned
    refine (getCloseInfo_arrived live arrived).mpr ⟨_, rfl, ?_, ?_⟩
    · dsimp only
      rw [sameCode, returned]
    · rw [sameReason, show (quicReason reason).getD [] = reason from whole]
      exact List.take_of_length_le fits

theorem resetCrosses_iff (obj : PhpQuicStream) (errorCode : Int) :
    ResetCrosses obj errorCode ↔ obj.ssl = none ∨ CodeFits errorCode := by
  rw [← codeWhole_toUint64_iff]
  unfold ResetCrosses Stream.reset
  cases obj.ssl with
  | none => exact iff_of_true (.pure (.inl ⟨⟨_, rfl⟩, rfl⟩)) (.inl rfl)
  | some ssl =>
      rw [or_iff_right nofun]
      constructor
      · intro crosses
        have accepted := always_call_bind.mp crosses (1 : Int) _ rfl
        obtain ⟨⟨_, thrown⟩, -⟩ | ⟨handed, same, code, -⟩ := always_pure.mp accepted
        · cases thrown
        · exact List.singleton_inj.mp same ▸ code
      · intro code
        have crosses (outcome : Outcome Unit) : ResetGoes errorCode outcome
            ⟨[], [Stream.toUint64 errorCode]⟩ := by
          refine .inr ⟨_, rfl, code, fun t arrives peer live => ?_⟩
          exact code.returned ▸ getResetCode_arrived live arrives.2
        refine always_call_bind.mpr ?_
        rintro rc _ rfl
        refine .ite (fun _ => ?_) fun _ => .pure (crosses _)
        refine (Always.of_unchanged (throwing_calls (phpQuicThrowSsl_calls _)) thrown_unhanded
          _).mono ?_
        rintro outcome _ rfl
        exact crosses outcome

/-- **Codes and reasons cross unchanged exactly when** the code can travel, and the reason has no NUL
byte and fits. -/
theorem codes_cross_iff {conn : PhpQuicConnection} (live : conn.ssl.isSome)
    (opened : conn.closed = false) (stream : PhpQuicStream) (closeCode resetCode : Int)
    (reason : Bytes) (room : Nat) :
    (CloseCrosses room conn closeCode reason ↔
        CodeFits closeCode ∧ NulFree reason ∧ reason.length ≤ room) ∧
      (ResetCrosses stream resetCode ↔ stream.ssl = none ∨ CodeFits resetCode) := by
  obtain ⟨ssl, owned⟩ := Option.isSome_iff_exists.mp live
  exact ⟨closeCrosses_iff owned opened, resetCrosses_iff stream resetCode⟩

/-! ### Codes that cross, and some that do not -/

/-- An open connection. -/
def liveConnection : PhpQuicConnection := ⟨some 1, some 3, true, false, none⟩

/-- A stream of it. -/
def liveStream : PhpQuicStream := ⟨some 2, some 1⟩

/-- `close(42, "bye")` and `reset(123)`. -/
theorem codes_cross_example :
    CloseCrosses 1200 liveConnection 42 (text "bye") ∧ ResetCrosses liveStream 123 := by
  obtain ⟨closes, resets⟩ :=
    @codes_cross_iff liveConnection rfl rfl liveStream 42 123 (text "bye") 1200
  refine ⟨closes.mpr ⟨?_, by decide, by decide⟩, resets.mpr (.inr ?_)⟩
  · exact ⟨by decide, by decide⟩
  · exact ⟨by decide, by decide⟩

/-- **A negative code is handed over as a huge one, a reason is cut at its NUL byte.** -/
theorem codes_garbled :
    (∃ obj s, Run handing (Connection.close liveConnection (-1) (text "bye")) .nothing obj s ∧
          s.closes = [⟨18446744073709551615, some (text "bye")⟩]) ∧
      (∃ obj s, Run handing (Connection.close liveConnection 7 (text "a" ++ [0, 98])) .nothing
          obj s ∧ s.closes = [⟨7, some (text "a")⟩]) ∧
      ¬ CloseCrosses 1200 liveConnection (-1) (text "bye") ∧
      ¬ CloseCrosses 1200 liveConnection 7 (text "a" ++ [0, 98]) ∧
      ¬ ResetCrosses liveStream (-1) := by
  have handed (code : Int) (reason : Bytes) :
      Run handing (Connection.close liveConnection code reason) .nothing
        { liveConnection with closed := true }
        ⟨[⟨Stream.toUint64 code, quicReason reason⟩], []⟩ :=
    .ask (show handing _ (.sslShutdownEx 1 _ _) (1 : Int) _ from rfl) (.done _ _)
  have negative : ¬ CodeFits (-1) := fun fits => absurd fits.1 (by decide)
  refine ⟨⟨_, _, handed _ _, rfl⟩, ⟨_, _, handed _ _, rfl⟩, ?_, ?_, ?_⟩
  · exact fun crosses => negative ((closeCrosses_iff rfl rfl).mp crosses).1
  · intro crosses
    have free := ((closeCrosses_iff rfl rfl).mp crosses).2.1
    exact absurd free (by decide)
  · intro crosses
    obtain closed | fits := (resetCrosses_iff liveStream (-1)).mp crosses
    · cases closed
    · exact negative fits

end PhpQuic
