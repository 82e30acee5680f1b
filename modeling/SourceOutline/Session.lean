import SourceOutline.Cancellation
import SourceOutline.Engine

/-!
# Session — calls that share an engine

Building chunkers and chunking files change an engine and leave a trace: the grammars that were
handed to the parser, the number of checks made, and the log.  Such a call is a `Call`; it can fail,
and what it did before stays done.
-/

namespace SourceOutline

/-- An engine and the trace of the calls that used it. -/
structure Session where
  engine : Engine := {}
  parses : List String := []
  checks : Nat := 0
  records : List Record := []

/-- A call that may fail and that changes a session in either case. -/
abbrev Call := ExceptT Failure (StateM Session)

namespace Call

def outcome {α : Type} (t : Call α) (s : Session) : Except Failure α × Session :=
  (ExceptT.run t).run s

def log (r : Record) : Call Unit :=
  modify fun s => { s with records := s.records ++ [r] }

def load (tools : Toolchain) (language : String) : Call String := do
  let s ← get
  let (result, engine, records) := s.engine.load tools language
  set { s with engine, records := s.records ++ records }
  match result with
  | .ok key => pure key
  | .error f => throw f

def attempt {α : Type} (t : Call α) : Call (Except Failure α) :=
  ExceptT.mk (Except.ok <$> ExceptT.run t)

def supports (tools : Toolchain) (language : String) : Call Bool := do
  match ← attempt (load tools language) with
  | .ok _ => pure true
  | .error (.unsupportedLanguage _ _) => pure false
  | .error f => throw f

def parse (tools : Toolchain) (language : String) (source : Bytes) : Call SyntaxNode := do
  let key ← load tools language
  modify fun s => { s with parses := s.parses ++ [key] }
  match (tools.parse key source).result language with
  | .ok root => pure root
  | .error f => throw f

def check (poll : Option Poll) : Call Unit := do
  match poll with
  | none => pure ()
  | some p =>
    modify fun s => { s with checks := s.checks + 1 }
    match p (← get).checks with
    | some why => throw (.interrupted why)
    | none => pure ()

end Call

end SourceOutline
