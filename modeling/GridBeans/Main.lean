import GridBeans.Settings
import GridBeans.Tool

/-!
# Program

Answers calls of tools, one on each line of the input, with one line each. A call is a JSON object
with the name of a `tool` and its `arguments`; the answer says whether it `is_error`, and has the
`text`. The options of documents are taken from the environment.
-/
namespace GridBeans

open GridBeans.Generation GridBeans.Json

/-- The tool that a line calls, if it is a call. -/
def Tool.ofLine? (line : String) : Option Tool := do
  let call := (← Value.ofText? line).members
  let name ← textArgument? "tool" call
  Tool.ofCall? name (((member? "arguments" call).map Value.members).getD [])

def ToolAnswer.render (a : ToolAnswer) : String :=
  (Value.object [("is_error", .bool a.isError), ("text", .string a.text)]).compact

def answerLine (options : DocumentOptions) (line : String) : String :=
  ToolAnswer.render <|
    match Tool.ofLine? line with
    | some tool => tool.answer options
    | none => ⟨true, "not a call of a tool"⟩

/-- The options that the environment of the program asks for. -/
def environmentOptions : IO DocumentOptions := do
  let location ← IO.getEnv propertiesLocationKey
  let header ← IO.getEnv headerCommentKey
  pure (settingsOf fun key =>
    if key = propertiesLocationKey then location
    else if key = headerCommentKey then header
    else none)

/-- Answers lines until the input ends. -/
partial def answerLines (options : DocumentOptions) (input output : IO.FS.Stream) : IO Unit := do
  let line ← input.getLine
  if line.isEmpty then pure ()
  else do
    output.putStr (answerLine options line ++ "\n")
    output.flush
    answerLines options input output

end GridBeans

def main : IO Unit := do
  GridBeans.answerLines (← GridBeans.environmentOptions) (← IO.getStdin) (← IO.getStdout)
