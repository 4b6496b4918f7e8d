import LedgerWallet.Gateway.Remote
import LedgerWallet.Proofs.Json.Documents
import LedgerWallet.Proofs.Text.Trimming

/-! What a call over the web comes to. A fault tells how far the call went, and the documents that a
gateway has to answer with are understood. -/
namespace LedgerWallet

namespace Endpoint

def epochDocument (epoch : UInt64) : Json :=
  .object [("ledger_state", .object [("epoch", .natural epoch.toNat)])]

def submissionDocument (duplicate : Bool) : Json := .object [("duplicate", .bool duplicate)]

def statusDocument (status : LedgerStatus) : Json := .object [("status", .string status.name)]

theorem read_epochDocument (current : UInt64) :
    Json.Reader.run epoch.answer (epochDocument current).render = .ok current := by
  have inner := Json.plain_of_isPlain (rfl : Json.isPlain "epoch" = true)
  have outer := Json.plain_of_isPlain (rfl : Json.isPlain "ledger_state" = true)
  have number := Json.Reader.readsInside_integer "u64" current.toNat_lt (Nat.le_refl _)
  have state := Json.Reader.readsInside_holding "struct LedgerState" (number.map UInt64.ofNat) inner
  rw [UInt64.ofNat_toNat, ← Json.render_member inner] at state
  exact Json.Reader.run_holding _ state outer (Json.render_member outer _)

theorem read_submissionDocument (duplicate : Bool) :
    Json.Reader.run submission.answer (submissionDocument duplicate).render = .ok duplicate := by
  have name := Json.plain_of_isPlain (rfl : Json.isPlain "duplicate" = true)
  exact Json.Reader.run_holding _ (Json.Reader.readsInside_flag duplicate) name
    (Json.render_member name _)

theorem read_statusDocument (current : LedgerStatus) :
    Json.Reader.run status.answer (statusDocument current).render = .ok current := by
  have known : LedgerStatus.ofName? current.name = some current := by cases current <;> rfl
  have plain := Json.plain_of_isPlain (by cases current <;> rfl : Json.isPlain current.name = true)
  have name := Json.plain_of_isPlain (rfl : Json.isPlain "status" = true)
  exact Json.Reader.run_holding _ (Json.Reader.readsInside_alternative known plain) name
    (Json.render_member name _)

end Endpoint

namespace Remote

variable {α σ : Type} {answer : Json.Reader α}

/-- A base address is a text without the slashes at its end. -/
theorem new_base (text : String) : ∃ slashes, text.toList =
    (new text).base.toList ++ List.replicate slashes '/' ∧ (new text).base.toList.getLast? ≠ some '/' := by
  have base : (new text).base.toList = Text.trimEnd (· = '/') text.toList := String.toList_ofList
  obtain ⟨after, parts, slashes⟩ := Text.trimEnd_append (· = '/') text.toList
  refine ⟨after.length, ?_, fun last => ?_⟩
  · rw [base, ← List.eq_replicate_of_mem fun c member => of_decide_eq_true (slashes c member)]
    exact parts
  · rw [base] at last
    exact Text.getLast?_trimEnd last (decide_eq_true rfl)

/-- What a call comes to is told by how far it went: there was no reply, the reply did not grant it, the
document was not the one that was promised, or it was. -/
inductive Concludes (answer : Json.Reader α) : Except String Reply → Except GatewayError α → Prop
  | unheard (reason : String) : Concludes answer (.error reason) (.error (.transport reason))
  | refused {reply : Reply} (refused : ¬ reply.isSuccess) :
      Concludes answer (.ok reply) (.error (.status reply.code reply.body))
  | garbled {reply : Reply} {fault : Json.Fault} (granted : reply.isSuccess)
      (read : Json.Reader.run answer reply.body = .error fault) :
      Concludes answer (.ok reply) (.error (.malformed "error decoding response body"))
  | answered {reply : Reply} {value : α} (granted : reply.isSuccess)
      (read : Json.Reader.run answer reply.body = .ok value) : Concludes answer (.ok reply) (.ok value)

theorem conclude_eq_iff {told : Except String Reply} {result : Except GatewayError α} :
    conclude answer told = result ↔ Concludes answer told result := by
  constructor
  · rintro rfl
    rcases told with reason | reply
    · exact .unheard reason
    · by_cases granted : reply.isSuccess
      · cases read : Json.Reader.run answer reply.body with
        | error fault =>
          rw [conclude, if_pos granted, read]
          exact .garbled granted read
        | ok value =>
          rw [conclude, if_pos granted, read]
          exact .answered granted read
      · rw [conclude, if_neg granted]
        exact .refused granted
  · intro concludes
    cases concludes with
    | unheard reason => rfl
    | refused refused => exact if_neg refused
    | garbled granted read | answered granted read =>
      rw [conclude, if_pos granted, read]
      rfl

variable {remote : Remote} {endpoint : Endpoint α} {web : Web (StateM σ)} {body : Json} {state : σ}

/-- Nothing is sent where the address is no good. Otherwise the document is sent once. -/
theorem post_spec (remote : Remote) (endpoint : Endpoint α) (web : Web (StateM σ)) (body : Json)
    (state : σ) : (∃ e, remote.target endpoint.path = .error e ∧
        remote.post web endpoint body state = (.error e, state)) ∨
      ∃ url result, remote.target endpoint.path = .ok url ∧
        Concludes endpoint.answer (web ⟨url, body⟩ state).1 result ∧
        remote.post web endpoint body state = (result, (web ⟨url, body⟩ state).2) := by
  rw [post]
  cases found : remote.target endpoint.path with
  | error e => exact .inl ⟨e, rfl, rfl⟩
  | ok url => exact .inr ⟨url, _, rfl, conclude_eq_iff.mp rfl, rfl⟩

/-- A document that is promised is understood. -/
theorem post_document {document : Json} {value : α} {url : Url} {code : UInt16}
    (found : remote.target endpoint.path = .ok url) (granted : (Reply.mk code document.render).isSuccess)
    (replied : (web ⟨url, body⟩ state).1 = .ok ⟨code, document.render⟩)
    (read : Json.Reader.run endpoint.answer document.render = .ok value) :
    (remote.post web endpoint body state).1 = .ok value := by
  have posted : (remote.post web endpoint body state).1 =
      conclude endpoint.answer (web ⟨url, body⟩ state).1 := by
    rw [post, found]
    rfl
  rw [posted, replied]
  exact conclude_eq_iff.mpr (.answered granted read)

theorem transport_of_target {path : String} {e : GatewayError} (failed : remote.target path = .error e) :
    ∃ message, e = .transport message := by
  rw [target] at failed
  split at failed
  · cases failed
    exact ⟨_, rfl⟩
  · split at failed
    · nomatch failed
    · cases failed
      exact ⟨_, rfl⟩

/-- Where nothing listens, no call has a reply. -/
theorem post_silence (remote : Remote) (endpoint : Endpoint α) (body : Json) :
    ∃ message, remote.post (m := Id) silence endpoint body = .error (.transport message) := by
  rw [post]
  cases found : remote.target endpoint.path with
  | error e =>
    obtain ⟨message, rfl⟩ := transport_of_target found
    exact ⟨message, rfl⟩
  | ok url => exact ⟨_, rfl⟩

end Remote

end LedgerWallet
