import Conduit.Pipe.Basic
import Conduit.Text.Record
set_option autoImplicit false

namespace Conduit.Pipe

open Text (Record Layout)

def record (pipe : Pipe) : Record :=
  { name := "ByteStream"
    fields :=
      [ ("capacity", toString pipe.capacity),
        ("buffered", toString pipe.size),
        ("bytes_written", toString pipe.totalIn.toNat),
        ("bytes_read", toString pipe.totalOut.toNat),
        ("input_ended", toString pipe.ended) ]
    complete := false }

def describe (pipe : Pipe) (layout : Layout) : String := pipe.record.render layout

inductive End
  | sending
  | receiving
  deriving DecidableEq, Repr

def End.title : End → String
  | sending => "StreamWriter"
  | receiving => "StreamReader"

def describeEnd (pipe : Pipe) (side : End) (layout : Layout) : String :=
  Record.render
    { name := side.title
      fields := [("stream", pipe.describe layout)]
      complete := true } layout

end Conduit.Pipe
