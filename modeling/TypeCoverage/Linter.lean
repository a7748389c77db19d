import TypeCoverage.Cache
import TypeCoverage.Lint

/-!
# A linter of its own

A `Linter` lints documents one after another against the replies of a checker.  It keeps
the reports it has read and the servers that were started, and it may have someone to ask
whether a document is still open and someone who is told of each report.
-/

namespace TypeCoverage

/-- A linter with its replies, and what it has done so far. -/
structure Linter where
  cache : Cache := .empty
  servers : Servers := .empty
  replies : List Reply
  /-- The answers to the question whether a document is still open, if it can be asked. -/
  isOpen : Option (List Bool) := none
  consulted : Nat := 0
  memo : Memo := .empty
  calls : List Call := []
  reports : List (String × Report) := []

namespace Linter

/-- Asks whether the document is still open. -/
def ask (l : Linter) : Bool × Linter :=
  match l.isOpen with
  | none => (true, l)
  | some answers =>
    let (answer, answers) := Request.nextAnswer answers
    (answer, { l with isOpen := some answers, consulted := l.consulted + 1 })

/-- Keeps a report, if its document is still open. -/
def keep (l : Linter) (p : Lint.Pending) (r : Report) : Lint.Result × Linter :=
  match l.ask with
  | (false, l) => (.ok none, l)
  | (true, l) =>
    (.ok (some (p.diagnostics r)),
      { l with
        cache := l.cache.set p.document.id r
        reports := l.reports ++ [(p.document.id, r)] })

/-- Calls the checker until the lint is over. -/
def converse (l : Linter) (p : Lint.Pending) : List Reply → Lint.Result × Linter
  | [] =>
    (.error (.runtime "no more responses"), { l with replies := [], calls := l.calls ++ [p.call] })
  | reply :: replies =>
    let l := { l with replies := replies, calls := l.calls ++ [p.call] }
    match p.hear reply with
    | .ended result => (result, l)
    | .report r => l.keep p r
    | .busy root =>
      let l := match root with
        | some root => { l with servers := l.servers.add root }
        | none => l
      match l.ask with
      | (false, l) => (.ok none, l)
      | (true, l) => l.converse p replies

/-- Lints a document. -/
def lint (l : Linter) (settings : Settings) (timeout : Option Binary64) (t : FileTree)
    (document : Document) : Lint.Result × Linter :=
  match Lint.begin settings timeout t l.memo document with
  | (.ended result, memo) => (result, { l with memo := memo })
  | (.calls p, memo) => { l with memo := memo }.converse p l.replies

end Linter

end TypeCoverage
