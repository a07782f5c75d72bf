import Mathlib.Tactic
import PiSSM.Dashboard.Api

/-!
The messages of the inference page. Sending an input adds it and an empty answer,
and every token that arrives is appended to the answer, until an error takes its place.
Messages are numbered from one, which is how the page finds the answer again.
-/

namespace PiSSM.Dashboard

open PiSSM.Lib

inductive Role where
  | user
  | assistant
  deriving DecidableEq

structure Message where
  id : Nat
  role : Role
  content : String
  deriving DecidableEq

/-- The update of one message when a token for the answer arrives. -/
def Message.appendToken (assistantId : Nat) (token : String) (m : Message) : Message :=
  if m.id = assistantId then { m with content := m.content ++ token } else m

theorem Message.id_appendToken (assistantId : Nat) (token : String) (m : Message) :
    (m.appendToken assistantId token).id = m.id := by
  unfold Message.appendToken
  split <;> rfl

theorem Message.appendToken_of_ne {assistantId : Nat} {m : Message} (hid : m.id ≠ assistantId)
    (token : String) : m.appendToken assistantId token = m :=
  if_neg hid

/-- The update of one message when the request for the answer has failed. -/
def Message.showError (assistantId : Nat) (message : String) (m : Message) : Message :=
  if m.id = assistantId then { m with content := s!"Error: {message}" } else m

theorem Message.id_showError (assistantId : Nat) (message : String) (m : Message) :
    (m.showError assistantId message).id = m.id := by
  unfold Message.showError
  split <;> rfl

theorem Message.showError_of_ne {assistantId : Nat} {m : Message} (hid : m.id ≠ assistantId)
    (message : String) : m.showError assistantId message = m :=
  if_neg hid

structure Chat where
  messages : List Message
  numbered : messages.map Message.id = List.range' 1 messages.length

namespace Chat

def empty : Chat where
  messages := []
  numbered := rfl

/-- The number of the answer to the next input. -/
def assistantId (chat : Chat) : Nat := chat.messages.length + 2

def userMessage (chat : Chat) (input : String) : Message :=
  ⟨chat.messages.length + 1, .user, input⟩

def assistantMessage (chat : Chat) (content : String) : Message :=
  ⟨chat.assistantId, .assistant, content⟩

/-- The start of `handleSend`. -/
def send (chat : Chat) (input : String) : Chat where
  messages := chat.messages ++ [chat.userMessage input, chat.assistantMessage ""]
  numbered := by
    have hlength : (chat.messages ++ [chat.userMessage input,
        chat.assistantMessage ""]).length = chat.messages.length + 1 + 1 := List.length_append
    rw [hlength, List.map_append, chat.numbered, List.range'_concat, List.range'_concat,
      List.append_assoc, Nat.one_mul, Nat.one_mul, Nat.add_comm 1, Nat.add_comm 1]
    rfl

def appendToken (chat : Chat) (assistantId : Nat) (token : String) : Chat where
  messages := chat.messages.map (Message.appendToken assistantId token)
  numbered := by
    have hids : Message.id ∘ Message.appendToken assistantId token = Message.id :=
      funext (Message.id_appendToken assistantId token)
    rw [List.map_map, hids, List.length_map, chat.numbered]

/-- The tokens of a stream, one after the other. -/
def appendTokens (chat : Chat) (assistantId : Nat) (tokens : List String) : Chat :=
  tokens.foldl (fun chat token => chat.appendToken assistantId token) chat

theorem id_le {chat : Chat} {m : Message} (hmem : m ∈ chat.messages) :
    m.id ≤ chat.messages.length := by
  have hid := @List.mem_map_of_mem _ _ _ _ Message.id hmem
  rw [chat.numbered, List.mem_range'_1] at hid
  omega

/-- The answer holds what has been appended, and the other messages are as before. -/
theorem messages_appendTokens (chat : Chat) (input : String) (tokens : List String) :
    ((chat.send input).appendTokens chat.assistantId tokens).messages =
      chat.messages ++ [chat.userMessage input, chat.assistantMessage (String.join tokens)] := by
  induction tokens using List.reverseRecOn with
  | nil => rfl
  | append_singleton tokens token ih =>
      have hstep : (chat.send input).appendTokens chat.assistantId (tokens ++ [token]) =
          ((chat.send input).appendTokens chat.assistantId tokens).appendToken
            chat.assistantId token := List.foldl_append
      have hjoin : String.join (tokens ++ [token]) = String.join tokens ++ token :=
        List.foldl_append
      have hkept : chat.messages.map (Message.appendToken chat.assistantId token) =
          chat.messages := by
        refine (List.map_congr_left fun m hmem => ?_).trans (List.map_id _)
        have hle := id_le hmem
        exact Message.appendToken_of_ne (by unfold assistantId; omega) token
      have hinput : (chat.userMessage input).appendToken chat.assistantId token =
          chat.userMessage input :=
        Message.appendToken_of_ne (Nat.lt_succ_self (chat.messages.length + 1)).ne token
      have hanswer : (chat.assistantMessage (String.join tokens)).appendToken
          chat.assistantId token = chat.assistantMessage (String.join tokens ++ token) :=
        if_pos rfl
      rw [hstep, hjoin, appendToken]
      simp only [ih, List.map_append, hkept, List.map_cons, hinput, hanswer, List.map_nil]

/-- The answer after a failure. -/
def showError (chat : Chat) (assistantId : Nat) (message : String) : Chat where
  messages := chat.messages.map (Message.showError assistantId message)
  numbered := by
    have hids : Message.id ∘ Message.showError assistantId message = Message.id :=
      funext (Message.id_showError assistantId message)
    rw [List.map_map, hids, List.length_map, chat.numbered]

/-- The answer holds the error, and the other messages are as before. -/
theorem messages_showError (chat : Chat) (input : String) (tokens : List String)
    (message : String) :
    (((chat.send input).appendTokens chat.assistantId tokens).showError chat.assistantId
        message).messages =
      chat.messages ++ [chat.userMessage input,
        chat.assistantMessage s!"Error: {message}"] := by
  have hkept : chat.messages.map (Message.showError chat.assistantId message) =
      chat.messages := by
    refine (List.map_congr_left fun m hmem => ?_).trans (List.map_id _)
    have hle := id_le hmem
    exact Message.showError_of_ne (by unfold assistantId; omega) message
  have hinput : (chat.userMessage input).showError chat.assistantId message =
      chat.userMessage input :=
    Message.showError_of_ne (Nat.lt_succ_self (chat.messages.length + 1)).ne message
  have hanswer : (chat.assistantMessage (String.join tokens)).showError chat.assistantId
      message = chat.assistantMessage s!"Error: {message}" := if_pos rfl
  rw [showError]
  simp only [messages_appendTokens, List.map_append, hkept, List.map_cons, hinput, hanswer,
    List.map_nil]

end Chat

/-- How the browser makes strings of what is no string: a value that is appended to one, and
the message of what has been thrown. -/
structure JsText where
  ofToken : Option JsonValue → String
  ofError : JsError → String
  ofToken_str : ∀ text, ofToken (some (.str text)) = text
  ofError_error : ∀ message, ofError (.error (.str message)) = message

/-- What an answer shows in the end. -/
def answerText (js : JsText)
    (settled : List (Option JsonValue) × Except JsError InferResult) : String :=
  match settled.2 with
  | .ok _ => String.join (settled.1.map js.ofToken)
  | .error err => s!"Error: {js.ofError err}"

/-- `handleSend` with the calls of `onToken` and the end of its request. -/
def Chat.handleSend (js : JsText) (chat : Chat) (input : String)
    (settled : List (Option JsonValue) × Except JsError InferResult) : Chat :=
  let answered :=
    (chat.send input).appendTokens chat.assistantId (settled.1.map js.ofToken)
  match settled.2 with
  | .ok _ => answered
  | .error err => answered.showError chat.assistantId (js.ofError err)

theorem Chat.messages_handleSend (js : JsText) (chat : Chat) (input : String)
    (settled : List (Option JsonValue) × Except JsError InferResult) :
    (chat.handleSend js input settled).messages =
      chat.messages ++ [chat.userMessage input,
        chat.assistantMessage (answerText js settled)] := by
  obtain ⟨tokens, outcome⟩ := settled
  cases outcome with
  | ok result => exact chat.messages_appendTokens input _
  | error err => exact chat.messages_showError input _ _

/-- The messages of a conversation. -/
def transcript (turns : List (String × String)) : List Message :=
  turns.zipIdx.flatMap fun (turn, index) =>
    [⟨2 * index + 1, .user, turn.1⟩, ⟨2 * index + 2, .assistant, turn.2⟩]

theorem transcript_length (turns : List (String × String)) :
    (transcript turns).length = 2 * turns.length := by
  have hpairs : ∀ entry ∈ turns.zipIdx, ([⟨2 * entry.2 + 1, .user, entry.1.1⟩,
      ⟨2 * entry.2 + 2, .assistant, entry.1.2⟩] : List Message).length = 2 := fun _ _ => rfl
  rw [transcript, List.length_flatMap, List.map_congr_left hpairs, List.map_const',
    List.sum_replicate, List.length_zipIdx, smul_eq_mul, Nat.mul_comm]

theorem transcript_concat (turns : List (String × String)) (turn : String × String) :
    transcript (turns ++ [turn]) = transcript turns ++
      [⟨2 * turns.length + 1, .user, turn.1⟩, ⟨2 * turns.length + 2, .assistant, turn.2⟩] := by
  simp [transcript, List.zipIdx_append]

/-- Of a conversation an update of the last answer changes nothing else. -/
theorem transcript_map_last {f : Message → Message} (turns : List (String × String))
    (turn : String × String) (hf : ∀ m : Message, m.id ≠ 2 * turns.length + 2 → f m = m) :
    (transcript (turns ++ [turn])).map f = transcript turns ++
      [⟨2 * turns.length + 1, .user, turn.1⟩, f ⟨2 * turns.length + 2, .assistant, turn.2⟩] := by
  have hkept : (transcript turns).map f = transcript turns := by
    refine (List.map_congr_left fun m hmem => ?_).trans (List.map_id _)
    obtain ⟨⟨other, index⟩, hentry, hm⟩ := List.mem_flatMap.mp hmem
    have hindex : index < turns.length := by
      simpa using (List.mem_zipIdx hentry).2.1
    apply hf
    simp only [List.mem_cons, List.not_mem_nil, or_false] at hm
    rcases hm with rfl | rfl
    · dsimp only
      omega
    · dsimp only
      omega
  have hinput : f ⟨2 * turns.length + 1, .user, turn.1⟩ =
      ⟨2 * turns.length + 1, .user, turn.1⟩ := hf _ (by dsimp only; omega)
  rw [transcript_concat, List.map_append, hkept, List.map_cons, hinput]
  rfl

end PiSSM.Dashboard
