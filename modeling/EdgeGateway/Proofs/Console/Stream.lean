import EdgeGateway.CommandLine.Gateway
import EdgeGateway.Proofs.Telemetry.Entry

/-!
# What a console writes can be read back

A console is told in any order to connect, to disconnect and to publish messages. `Terminal` is a
console together with its writer and the answers that it has given, `verdicts` are the answers that
are due, and the messages accepted are those with a good verdict.

`Console.written_is_read_back` is the result. The text written is one line for each accepted
message in turn; a line holds no line break but its last; and a gateway that is given the line
routes the very message that was written, whatever is in its channel and its payload.
-/

namespace EdgeGateway

/-! ## Line breaks and blanks -/

namespace Json

/-- A hexadecimal digit is no line break. -/
theorem digitChar_ne_newline {digit : Nat} (small : digit < 16) : '\n' ≠ Nat.digitChar digit := by
  intro same
  have worth := hexDigit?_digitChar small
  rw [← same] at worth
  cases worth

/-- A line break is escaped, and no escape holds one. -/
theorem newline_not_mem_escape (character : Char) : '\n' ∉ escape character := by
  unfold escape
  split
  case h_8 newline _ _ =>
    split
    · have high : '\n' ≠ Nat.digitChar (character.toNat / 16) := digitChar_ne_newline (by omega)
      have low : '\n' ≠ Nat.digitChar (character.toNat % 16) := digitChar_ne_newline (by omega)
      simp [high, low]
    · exact fun same => newline (List.mem_singleton.1 same).symm
  all_goals decide

/-- A text is written without line breaks. -/
theorem newline_not_mem_stringText (text : String) : '\n' ∉ stringText text := by
  have escaped : '\n' ∉ text.toList.flatMap escape := by
    intro member
    obtain ⟨character, -, inside⟩ := List.mem_flatMap.1 member
    exact newline_not_mem_escape character inside
  simp [stringText, escaped]

end Json

/-- Blank characters behind a text that neither begins nor ends with one are trimmed off. -/
theorem Text.trimmed_append {first last : Char} (opens : isBlank first = false)
    (closes : isBlank last = false) (inner : List Char) {blanks : List Char}
    (blank : ∀ character ∈ blanks, isBlank character = true) :
    trimmed ((first :: inner ++ [last]) ++ blanks) = first :: inner ++ [last] := by
  have front : ((first :: inner ++ [last]) ++ blanks).dropWhile isBlank =
      (first :: inner ++ [last]) ++ blanks :=
    List.dropWhile_cons_of_neg (Bool.eq_false_iff.1 opens)
  have behind : (blanks.reverse ++ last :: (first :: inner).reverse).dropWhile isBlank =
      last :: (first :: inner).reverse := by
    rw [List.dropWhile_append_of_pos fun character member => blank _ (List.mem_reverse.1 member),
      List.dropWhile_cons_of_neg (Bool.eq_false_iff.1 closes)]
  rw [trimmed, front, List.reverse_append, List.reverse_concat, behind]
  simp

namespace Console

open EdgeGateway.Json

/-! ## Lines -/

/-- The line of a message is an object in braces. -/
theorem exists_characters_lineValue (name : String) (message : Message) :
    ∃ inner, (lineValue name message).characters = '{' :: inner ++ ['}'] :=
  ⟨_, rfl⟩

/-- A message is written without line breaks. -/
theorem newline_not_mem_lineValue (name : String) (message : Message) :
    '\n' ∉ (lineValue name message).text.toList := by
  simp [lineValue, Value.text, Value.characters, Value.memberCharacters,
    newline_not_mem_stringText]

/-- The members as which a line is read. -/
def lineMembers (name : String) (message : Message) : List (List StringUnit × Tree) :=
  [(unitsOf "sink", .string (unitsOf name)),
    (unitsOf "channel", .string (unitsOf message.channel)),
    (unitsOf "payload", .string (unitsOf message.payload))]

/-- A line is read as an object of its three members. -/
theorem tree_lineValue (name : String) (message : Message) :
    Tree.ofText? (lineValue name message).text = some (.object (lineMembers name message)) :=
  ofText?_of_written
    (.object (.cons _ (.string _) (.cons _ (.string _) (.cons _ (.string _) .nil))))

/-- The names of a line in their order: an object keeps them sorted, a line does not. -/
theorem rows_ofList_members (sink channel payload : Value) :
    (Table.ofList [("sink", sink), ("channel", channel), ("payload", payload)]).rows =
      [("channel", channel), ("payload", payload), ("sink", sink)] := by
  have channelFirst : "channel" < "sink" := by decide
  have payloadLater : ¬"payload" < "channel" := by decide
  have unequal : "payload" ≠ "channel" := by decide
  have payloadBefore : "payload" < "sink" := by decide
  change Table.insertRow "payload" payload
    (Table.insertRow "channel" channel [("sink", sink)]) = _
  simp only [Table.insertRow, if_pos channelFirst, if_neg payloadLater, if_neg unequal,
    if_pos payloadBefore]

/-- A line decodes to an object of exactly the sink, the channel and the payload. -/
theorem value_lineValue (name : String) (message : Message) :
    Value.ofText? (lineValue name message).text =
      some (.object
        [("channel", .string message.channel), ("payload", .string message.payload),
          ("sink", .string name)]) := by
  simp [Value.ofText?, tree_lineValue, lineMembers, Value.depthLimit, Value.ofTree?,
    Value.ofMembers?, rows_ofList_members]

/-- A line is read as its message, with or without its line break. -/
theorem ofLine?_lineValue (name : String) (message : Message) {line : String}
    (trimmed : Text.trim line = (lineValue name message).text) :
    CommandLine.Input.ofLine? line = some (.message message) := by
  simp [CommandLine.Input.ofLine?, trimmed, tree_lineValue, value_lineValue, lineMembers,
    Tree.decodedMembers?, CommandLine.Input.message?, CommandLine.Input.text?, Tree.field?,
    Value.ofTree?, Payload.memberText]

/-- Trimming takes only the line break off a line. -/
theorem trim_lineValue (name : String) (message : Message) (blanks : String)
    (blank : ∀ character ∈ blanks.toList, Text.isBlank character = true) :
    Text.trim ((lineValue name message).text ++ blanks) = (lineValue name message).text := by
  obtain ⟨inner, framed⟩ := exists_characters_lineValue name message
  unfold Text.trim Value.text
  rw [String.toList_append, String.toList_ofList, framed,
    Text.trimmed_append (by decide) (by decide) inner blank]

/-! ## Instructions -/

/-- What a console is told. -/
inductive Instruction where
  | connect
  | disconnect
  | publish (message : Message)
  deriving DecidableEq

/-- The messages among some instructions, and whether the console is connected when it is given
each. -/
def verdicts : (connected : Bool) → List Instruction → List (Message × Bool)
  | _, [] => []
  | _, .connect :: instructions => verdicts true instructions
  | _, .disconnect :: instructions => verdicts false instructions
  | connected, .publish message :: instructions =>
    (message, connected) :: verdicts connected instructions

/-- The messages with a good verdict. -/
def accepted (verdicts : List (Message × Bool)) : List Message :=
  (verdicts.filter Prod.snd).map Prod.fst

end Console

open Console

/-- A console, what it writes to, and what it has answered to the messages that it was given. -/
structure Terminal where
  console : Console
  writer : Writer := {}
  answers : List (Message × Bool) := []
  deriving DecidableEq

namespace Terminal

/-- A console does what it is told. -/
def perform (terminal : Terminal) : Instruction → Terminal
  | .connect => { terminal with console := terminal.console.connect }
  | .disconnect => { terminal with console := terminal.console.disconnect }
  | .publish message =>
    let (answer, writer) := terminal.console.publish message terminal.writer
    { terminal with writer, answers := terminal.answers ++ [(message, answer)] }

/-- A new console with a name, after some instructions. -/
def after (name : String) (instructions : List Instruction) : Terminal :=
  instructions.foldl perform { console := { name } }

/-- What has been answered and written follows the verdicts: one line for each message accepted. -/
theorem foldl_perform (terminal : Terminal) (works : terminal.writer.broken = false)
    (instructions : List Instruction) :
    let due := verdicts terminal.console.connected instructions
    let later := instructions.foldl perform terminal
    later.answers = terminal.answers ++ due ∧
      later.writer.written = terminal.writer.written ++
        String.join ((accepted due).map (line terminal.console.name)) := by
  induction instructions generalizing terminal with
  | nil => exact ⟨(List.append_nil _).symm, String.append_empty.symm⟩
  | cons instruction instructions inductionHypothesis =>
    cases instruction with
    | connect => exact inductionHypothesis _ works
    | disconnect => exact inductionHypothesis _ works
    | publish message =>
      obtain ⟨⟨name, connected⟩, ⟨broken, written⟩, answers⟩ := terminal
      obtain rfl : broken = false := works
      cases connected with
      | false =>
        obtain ⟨answered, lines⟩ := inductionHypothesis
          ⟨⟨name, false⟩, ⟨false, written⟩, answers ++ [(message, false)]⟩ rfl
        refine ⟨?_, lines⟩
        exact answered.trans (List.append_assoc _ _ _)
      | true =>
        obtain ⟨answered, lines⟩ := inductionHypothesis
          ⟨⟨name, true⟩, ⟨false, written ++ line name message⟩, answers ++ [(message, true)]⟩ rfl
        refine ⟨answered.trans (List.append_assoc _ _ _), lines.trans ?_⟩
        simp [accepted, verdicts, String.append_assoc]

/-- Lines are taken apart at their line breaks. -/
theorem splitOn_join_line (name : String) (messages : List Message) :
    (String.join (messages.map (line name))).toList.splitOn '\n' =
      messages.map (fun message => (lineValue name message).text.toList) ++ [[]] := by
  induction messages with
  | nil => rfl
  | cons message messages inductionHypothesis =>
    have first : (String.join ((message :: messages).map (line name))).toList =
        (lineValue name message).text.toList ++
          '\n' :: (String.join (messages.map (line name))).toList := by
      simp [line]
    rw [first, List.splitOn_append_cons_self_of_not_mem (newline_not_mem_lineValue name message),
      inductionHypothesis]
    rfl

end Terminal

/-- **What a console writes can be read back.** Whatever its name, the instructions and the
messages:

* a message is accepted exactly if the console is connected when it is given;
* the text written is, in turn, one line for each message accepted, and it has no line break but
  those that end the lines;
* a line decodes to an object of exactly the sink, the channel and the payload;
* a gateway that reads a line, with or without its line break, routes the message written. -/
theorem Console.written_is_read_back (name : String) (instructions : List Instruction) :
    let terminal := Terminal.after name instructions
    let lines := accepted (verdicts false instructions)
    terminal.answers = verdicts false instructions ∧
      terminal.writer.written = String.join (lines.map (line name)) ∧
      terminal.writer.written.toList.splitOn '\n' =
        lines.map (fun message => (lineValue name message).text.toList) ++ [[]] ∧
      ∀ message,
        line name message = (lineValue name message).text ++ "\n" ∧
        '\n' ∉ (lineValue name message).text.toList ∧
        Json.Value.ofText? (lineValue name message).text =
          some (.object
            [("channel", .string message.channel), ("payload", .string message.payload),
              ("sink", .string name)]) ∧
        ∀ {Backlog : Type → Type} [Store Backlog] (time : UInt64)
          (gateway : CommandLine.Gateway Backlog),
          gateway.readLine time (line name message) = gateway.route message ∧
          gateway.readLine time (lineValue name message).text = gateway.route message := by
  intro terminal lines
  obtain ⟨answers, written⟩ := Terminal.foldl_perform { console := { name } } rfl instructions
  have text : terminal.writer.written = String.join (lines.map (line name)) :=
    written.trans String.empty_append
  refine ⟨answers, text, ?_, fun message =>
    ⟨rfl, newline_not_mem_lineValue name message, value_lineValue name message, ?_⟩⟩
  · rw [text]
    exact Terminal.splitOn_join_line name lines
  · intro Backlog _ time gateway
    have whole := ofLine?_lineValue name message
      (trim_lineValue name message "\n" (List.forall_mem_singleton.2 rfl))
    have body := ofLine?_lineValue name message
      (trim_lineValue name message "" (List.forall_mem_nil _))
    rw [String.append_empty] at body
    constructor
    · rw [CommandLine.Gateway.readLine, line, whole]
    · rw [CommandLine.Gateway.readLine, body]

/-- A message that is refused leaves no trace, and texts are escaped as far as they have to be. -/
example :
    (Terminal.after "out"
        [.publish ⟨"a", ""⟩, .connect, .publish ⟨"b\"", "\x7b\n\x7d"⟩, .disconnect,
          .publish ⟨"c", ""⟩]).writer.written =
      "\x7b\"sink\":\"out\",\"channel\":\"b\\\"\",\"payload\":\"\x7b\\n\x7d\"\x7d\n" := by
  decide +kernel

end EdgeGateway
