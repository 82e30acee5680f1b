import SourceOutline.Failure.Basic
import SourceOutline.Console.Markup

/-!
# Report — what is shown on the console

Output goes to two streams: results to the first, and failures, tips and summaries to the second.

* `Item`, `Print` — what is shown, and on which stream;
* `Item.isRefused` — whether the console refuses a markup in what is shown;
* `Report` — a failure as it is shown: its code, why it happened, and what can be done;
* `Report.prints` — the panel of a failure, and where it arose if that is asked for;
* `tip` — a hint for the user.
-/

namespace SourceOutline

/-! ## Items -/

inductive Branch where
  | node (label : String) (branches : List Branch)

/-- Something that is shown.  A text is made of words of the package and of numbers; a notice has
something from outside in it. -/
inductive Item where
  | text (markup : String)
  | notice (markup : String)
  | tree (root : Branch)
  | table (title : String) (columns : List String) (rows : List (List String))
  | panel (title text : String)

mutual

def Branch.isRefused (refuses : String → Bool) : Branch → Bool
  | .node label branches => refuses label || Branch.anyRefused refuses branches

def Branch.anyRefused (refuses : String → Bool) : List Branch → Bool
  | [] => false
  | b :: rest => b.isRefused refuses || Branch.anyRefused refuses rest

end

/-- Whether the console refuses a markup in an item.  It takes the package's own words, and panels,
whose text is not read as markup. -/
def Item.isRefused (refuses : String → Bool) : Item → Bool
  | .text _ => false
  | .notice markup => refuses markup
  | .tree root => root.isRefused refuses
  | .table _ _ rows => rows.any fun cells => cells.any refuses
  | .panel _ _ => false

structure Print where
  isError : Bool
  item : Item

def tip (message : String) : Print :=
  ⟨true, .text ("  [dim]Tip: " ++ message ++ "[/dim]")⟩

/-! ## Failures -/

/-- Stands for the places in a program through which a failure has passed. -/
def trace : String := "<traceback>"

structure Report where
  message : String
  code : String
  reason : String
  advice : List String
  /-- Where the failure arose. -/
  origin : String := trace

namespace Report

def ofDiagnostic (d : Diagnostic) : Report where
  message := d.message
  code := d.code
  reason := d.reason
  advice := d.advice

/-- The report of any other failure, known by its title only. -/
def ofTitle (title message : String) : Report where
  message := message
  code := ErrorKind.general.code
  reason := title ++ " raised while processing"
  advice := ["Run with --verbose for the full traceback"]

def ofFailure (f : Failure) : Report :=
  match f.diagnostic?, f with
  | some d, _ => ofDiagnostic d
  | none, .fault why => ofTitle why.title f.message
  | none, _ => ofTitle "" f.message

/-- The line that a failure is shown by when it has not passed through any place. -/
def originLine (qualifiedTitle message : String) : String :=
  qualifiedTitle ++ (if message = "" then "" else ": " ++ message) ++ "\n"

def text (r : Report) (context : String) : String :=
  (if context = "" then "" else context ++ "\n\n") ++ r.message ++ "\n\n" ++ "Why it happened:\n" ++
    "  " ++ r.reason ++ "\n\n" ++ "How to fix:\n" ++
    String.join (r.advice.map fun a => "  - " ++ a ++ "\n")

def prints (r : Report) (context : String) (withOrigin : Bool) : List Print :=
  ⟨true, .panel ("[bold red]Error: " ++ r.code ++ "[/bold red]") (r.text context)⟩ ::
    (if withOrigin then
      [⟨true, .text ""⟩, ⟨true, .text "[dim]--- Traceback (--verbose mode) ---[/dim]"⟩,
        ⟨true, .text r.origin⟩]
    else [])

end Report

end SourceOutline
