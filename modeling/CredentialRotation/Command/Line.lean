import CredentialRotation.Command.Basic
import CredentialRotation.Text.Digit
import CredentialRotation.Word

/-!
# Command — Line

What is asked for on the command line: one command, the resource it is about, and options, which may
stand anywhere.

**Main statement.**  Words that are no options are all kept, in their order (`read?_of_isWord`).
-/

namespace CredentialRotation.Command

/-- A command. -/
inductive Verb where
  | list
  | status (name : String)
  | rotate (name : String)
  /-- Suspend a resource, or resume it. -/
  | suspend (name : String) (suspend : Bool)
  | generate
  /-- Print the definition of the resource. -/
  | definition
  deriving DecidableEq, Repr

/-- What the options say. -/
structure Options where
  scope : Option String := none
  /-- The length of a password; zero stands for the usual one. -/
  length : Nat := 0
  symbols : Bool := false
  /-- When a rotation is asked for. -/
  time : Option Instant := none

/-- One option with a value. -/
def Options.set? (o : Options) (name value : String) : Option Options :=
  if name = "-n" ∨ name = "--namespace" then some { o with scope := some value }
  else if name = "-l" ∨ name = "--length" then
    (Text.unsignedBelow? Word.limit32 value.toList).map fun n => { o with length := n }
  else if name = "--at" then (Instant.ofText? value).map fun t => { o with time := some t }
  else none

/-- A word that is no option stands for itself. -/
def isWord (word : String) : Bool := word.toList.head? != some '-'

/-- The options, and the words that are none. -/
def Options.read? (o : Options) : List String → Option (Options × List String)
  | [] => some (o, [])
  | word :: rest =>
    if isWord word then (o.read? rest).map fun (o, words) => (o, word :: words)
    else if word = "-s" ∨ word = "--symbols" then { o with symbols := true }.read? rest
    else match rest with
      | [] => none
      | value :: rest => (o.set? word value).bind (·.read? rest)

theorem Options.read?_of_isWord (o : Options) {words : List String}
    (h : ∀ word ∈ words, isWord word = true) : o.read? words = some (o, words) := by
  induction words with
  | nil => rfl
  | cons word rest ih =>
    have hr := ih fun w hw => h w (List.mem_cons_of_mem _ hw)
    rw [Options.read?.eq_def]
    simp only [h word List.mem_cons_self, if_true, hr, Option.map_some]

/-- The command that some words ask for. -/
def Verb.ofWords? : List String → Option Verb
  | ["list"] => some .list
  | ["status", name] => some (.status name)
  | ["rotate", name] => some (.rotate name)
  | ["suspend", name] => some (.suspend name true)
  | ["resume", name] => some (.suspend name false)
  | ["generate"] => some .generate
  | ["definition"] => some .definition
  | _ => none

/-- What a command line asks for. -/
def Verb.ofArguments? (arguments : List String) : Option (Verb × Options) := do
  let (options, words) ← Options.read? {} arguments
  let verb ← Verb.ofWords? words
  some (verb, options)

/-- How to ask. -/
def usage : List String :=
  ["rotctl list [--namespace NAMESPACE]",
    "rotctl status NAME [--namespace NAMESPACE]",
    "rotctl rotate NAME --at TIME [--namespace NAMESPACE]",
    "rotctl suspend NAME [--namespace NAMESPACE]",
    "rotctl resume NAME [--namespace NAMESPACE]",
    "rotctl generate [--length LENGTH] [--symbols]",
    "rotctl definition"]

end CredentialRotation.Command
