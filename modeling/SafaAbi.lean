import SafaAbi.Scalar
import SafaAbi.Errors
import SafaAbi.Memory
import SafaAbi.Flags
import SafaAbi.Ffi.Option
import SafaAbi.Ffi.Num
import SafaAbi.Ffi.Slice
import SafaAbi.Ffi.Str
import SafaAbi.Ffi.Nested
import SafaAbi.Ffi.Ptr
import SafaAbi.Process
import SafaAbi.Fs
import SafaAbi.Syscalls
import SafaAbi.Sockets
