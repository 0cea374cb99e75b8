import LoopProgress.Store
import LoopProgress.Text.Utf8

namespace LoopProgress

/-- The encoded form of a line ends with one newline byte. -/
def lineBytes (line : String) : List UInt8 :=
  Utf8.encode line ++ [10]

/-- A byte buffer grows without limit and never fails. -/
structure ByteBuffer where
  held : List UInt8 := []

namespace ByteBuffer

def putLine (line : String) (buffer : ByteBuffer) : Except Failure Unit × ByteBuffer :=
  (.ok (), ⟨buffer.held ++ lineBytes line⟩)

instance : Store ByteBuffer Unit UInt8 where
  putLine line := .ofEffect (ByteBuffer.putLine line)
  contents := held
  configure _ buffer := buffer
  handOut? buffer := some buffer.held
  emptied buffer := { buffer with held := [] }
  finishes? _ := none

end ByteBuffer

end LoopProgress
