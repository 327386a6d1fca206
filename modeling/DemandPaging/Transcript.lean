/-!
Console output as a value: the text written so far to each of the two streams. What an operation
says is a transcript of its own, and transcripts of successive operations are appended.
-/
namespace DemandPaging

inductive Stream where
  | out
  | err
deriving DecidableEq, Repr

structure Transcript where
  out : String
  err : String
deriving DecidableEq, Repr

namespace Transcript

def empty : Transcript := ⟨"", ""⟩

def write (log : Transcript) (stream : Stream) (text : String) : Transcript :=
  match stream with
  | .out => { log with out := log.out ++ text }
  | .err => { log with err := log.err ++ text }

def writeLine (log : Transcript) (stream : Stream) (text : String) : Transcript :=
  log.write stream (text ++ "\n")

/-- The transcript that says one line. -/
def line (text : String) : Transcript := empty.writeLine .out text

/-- The transcript that says one line on the error stream. -/
def errorLine (text : String) : Transcript := empty.writeLine .err text

/-- What is written by `first` and then by `second`. -/
def append (first second : Transcript) : Transcript :=
  ⟨first.out ++ second.out, first.err ++ second.err⟩

instance : Append Transcript := ⟨append⟩

@[simp] theorem out_append (first second : Transcript) :
    (first ++ second).out = first.out ++ second.out := rfl

@[simp] theorem err_append (first second : Transcript) :
    (first ++ second).err = first.err ++ second.err := rfl

end Transcript

end DemandPaging
