/-!
# Environments

The variables that a program is started with.  What a variable holds are bytes, and they need not be text: a variable
may be set and still have nothing to read, and then it makes a difference whether it is asked for or read.
-/

namespace RunWatch

/-- The variables of an environment, each with the bytes that it holds. -/
abbrev Environment := String → Option ByteArray

namespace Environment

/-- Whether there is a variable, whatever it holds. -/
def isSet (env : Environment) (name : String) : Bool :=
  (env name).isSome

/-- The text of a variable: none if it is not set, and none either if it holds no text. -/
def text? (env : Environment) (name : String) : Option String :=
  (env name).bind String.fromUTF8?

/-- Whether a variable is set to something that is no text. -/
def isUnreadable (env : Environment) (name : String) : Bool :=
  env.isSet name && (env.text? name).isNone

/-- An environment in which every variable holds text. -/
def ofTexts (texts : String → Option String) : Environment :=
  fun name => (texts name).map String.toUTF8

/-- The environment that a block of bytes stands for: variable after variable as `name=value`, with a zero byte behind
each of them. -/
def ofBlock (block : ByteArray) : Environment := fun name =>
  let lead := (name ++ "=").toUTF8.toList
  (block.toList.splitOn 0).findSome? fun entry =>
    if lead.isPrefixOf entry then some ⟨(entry.drop lead.length).toArray⟩ else none

theorem text?_ofTexts (texts : String → Option String) (name : String) : (ofTexts texts).text? name = texts name := by
  unfold text? ofTexts
  cases texts name with
  | none => rfl
  | some text => exact dif_pos (String.isValidUTF8 text)

end Environment

end RunWatch
