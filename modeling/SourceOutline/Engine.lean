import SourceOutline.Failure.Basic
import SourceOutline.Log.Record
import SourceOutline.SyntaxTree

/-!
# Engine — grammars that are loaded once

An engine asks for each grammar once, under the lower-case form of its name, and remembers the
outcome: a grammar that was loaded stays loaded, and one that was refused stays refused with the
reason first given.
-/

namespace SourceOutline

/-! ## What is installed -/

inductive ParserAnswer where
  | tree (root : SyntaxNode)
  | noTree
  | refused (reason : String)
  | crashed (reason : String)

/-- What is installed: why a grammar cannot be loaded, if it cannot; the parser, which takes the
name of a loaded grammar and a source; and how many calls of a function within each other there is
room for. -/
structure Toolchain where
  refusal? : String → Option String
  parse : String → Bytes → ParserAnswer
  levels : Nat := 960

/-- The tree in a parser's answer.  A refusal and a missing tree fail for the language; a crash is
passed on. -/
def ParserAnswer.result (language : String) : ParserAnswer → Except Failure SyntaxNode
  | tree root => .ok root
  | noTree => .error (.noTree language)
  | refused reason => .error (.parserRefused language reason)
  | crashed reason => .error (.fault (.runtime reason))

/-! ## Engine -/

/-- What has been asked for: the names that loaded, the names that were refused with the reason, and
all requests in order. -/
structure Engine where
  loaded : List String := []
  refused : List (String × String) := []
  requests : List String := []

namespace Engine

def loggerName : String := "chunkforge.parsing.engine"

def load (tools : Toolchain) (language : String) (e : Engine) :
    Except Failure String × Engine × List Record :=
  let key := lowerCase language
  if e.loaded.contains key then (.ok key, e, [])
  else
    match e.refused.lookup key with
    | some reason => (.error (.unsupportedLanguage language reason), e, [])
    | none =>
      match tools.refusal? key with
      | some reason =>
        (.error (.unsupportedLanguage language reason),
          { e with refused := e.refused ++ [(key, reason)], requests := e.requests ++ [key] }, [])
      | none =>
        (.ok key, { e with loaded := e.loaded ++ [key], requests := e.requests ++ [key] },
          [.of .debug loggerName "Loaded grammar" [("language", .text key)]])

def loadedLanguages (e : Engine) : List String :=
  sortedUnique e.loaded

end Engine

end SourceOutline
