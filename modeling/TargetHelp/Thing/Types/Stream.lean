import TargetHelp.Thing.ValueType

/-!
# Types of streams

What is read or written, and the two types above it.
-/

set_option autoImplicit false
set_option relaxedAutoImplicit false

namespace TargetHelp.ValueType

/-- What is read or written. -/
def stream : ValueType where
  name := "_IOBase"
  home := "_io"
  description := some "The abstract base class for all I/O classes."
  sizes := layout 32 0 16 24 546048
  construct := some (.fails (.noMember "_io._IOBase" "read"))
  members := holding "_io._IOBase" (
    Slot.named "__iter__ __next__ __del__" ++
    [
      maker "_io._IOBase",
      .method "seek" (.replies (.refuses "'str' object cannot be interpreted as an integer"))
        "($self, offset, whence=os.SEEK_SET, /)"
        "Change the stream position to the given byte offset.",
      .method "tell" .nothing "($self, /)" "Return current stream position.",
      .method "truncate" (.atMost 1) "" "Truncate file to size bytes.",
      .method "flush" .nothing "($self, /)" "Flush write buffers, if applicable.",
      .method "close" .nothing "($self, /)" "Flush and close the IO object.",
      .method "seekable" .nothing "($self, /)" "Return whether object supports random access.",
      .method "readable" .nothing "($self, /)" "Return whether object was opened for reading.",
      .method "writable" .nothing "($self, /)" "Return whether object was opened for writing.",
      .method "_checkClosed" .nothing "" "",
      .method "_checkSeekable" .nothing "" "",
      .method "_checkReadable" .nothing "" "",
      .method "_checkWritable" .nothing "" "",
      .method "fileno" .nothing "($self, /)" "Returns underlying file descriptor if one exists.",
      .method "isatty" .nothing "($self, /)" "Return whether this is an 'interactive' stream.",
      .method "__enter__" .nothing "" "",
      .method "__exit__" (.replies (.gives "NoneType")) "" "",
      .method "readline" (.atMost 1) "($self, size=-1, /)"
        "Read and return a line from the stream.",
      .method "readlines" (.atMost 1) "($self, hint=-1, /)"
        "Return a list of lines from the stream.",
      .method "writelines" .one "($self, lines, /)" "Write a list of lines to stream.",
      .computed "__dict__" "",
      .computed "closed" ""])

/-- What texts are read from or written to. -/
def textStream : ValueType where
  name := "_TextIOBase"
  home := "_io"
  above := ["_io._IOBase", "object"]
  description := some "Base class for text I/O."
  sizes := layout 32 0 16 24 546048
  construct := some (.fails (.raised Kind.unsupported [.str "readline"]))
  members := holding "_io._TextIOBase" (
    [
      .method "detach" .nothing ""
        "Separate the underlying buffer from the TextIOBase and return it.",
      .method "read" (.atMost 1) "" "Read at most n characters from stream.",
      .method "readline" (.atMost 1) "" "Read until newline or EOF.",
      .method "write" .one "" "Write string to stream.",
      .computed "encoding" "Encoding of the text stream.",
      .computed "newlines" "Line endings translated so far.",
      .computed "errors" "The error setting of the decoder or encoder."])

/-- Streams of bytes that are read and written as texts. -/
def decodedStream : ValueType where
  name := "TextIOWrapper"
  home := "_io"
  above := ["_io._TextIOBase", "_io._IOBase", "object"]
  description := some "Character and line based layer over a BufferedIOBase object, buffer."
  signature := some (
    "(buffer, encoding=None, errors=None, newline=None,\n              line_buffering=False, " ++
    "write_through=False)")
  sizes := layout 192 0 184 176 546048
  construct := some (.tells (Kind.ofLabel "LookupError") fun _ directory =>
    "unknown encoding: " ++ directory.plain)
  members := holding "_io.TextIOWrapper" (
    Slot.named "__repr__ __next__ __init__" ++
    [
      maker "_io.TextIOWrapper",
      .method "detach" .nothing "($self, /)" "",
      .method "reconfigure" .namesOnly
        (
          "($self, /, *, encoding=None, errors=None, newline=None,\n            " ++
          "line_buffering=None, write_through=None)")
        "Reconfigure the text stream with new parameters.",
      .method "write" .one "($self, text, /)" "",
      .method "read" (.atMost 1) "($self, size=-1, /)" "",
      .method "readline" (.atMost 1) "($self, size=-1, /)" "",
      .method "flush" .nothing "($self, /)" "",
      .method "close" .nothing "($self, /)" "",
      .method "fileno" .nothing "($self, /)" "",
      .method "seekable" .nothing "($self, /)" "",
      .method "readable" .nothing "($self, /)" "",
      .method "writable" .nothing "($self, /)" "",
      .method "isatty" .nothing "($self, /)" "",
      .method "seek" (.replies (.refuses "'str' object cannot be interpreted as an integer"))
        "($self, cookie, whence=os.SEEK_SET, /)"
        "Set the stream position, and return the new stream position.",
      .method "tell" .nothing "($self, /)" "Return the stream position as an opaque number.",
      .method "truncate" (.atMost 1) "($self, pos=None, /)" "",
      .field "encoding" "",
      .field "buffer" "",
      .field "line_buffering" "",
      .field "write_through" "",
      .field "_finalizing" "",
      .computed "name" "",
      .computed "closed" "",
      .computed "newlines" "",
      .computed "errors" "",
      .computed "_CHUNK_SIZE" ""])

end TargetHelp.ValueType
