import TinyAra.Lib.DeltaList
import TinyAra.Lib.OrderedInsert
import TinyAra.Lib.PriorityList
import TinyAra.Lib.Machine
import TinyAra.Lib.IntervalBox
import TinyAra.Lib.ChainScan
import TinyAra.Lib.Memory
import TinyAra.Mm.Heap
import TinyAra.Mm.FreeList
import TinyAra.Mm.Gran
import TinyAra.Libc.Stdio
import TinyAra.Libc.Stdlib.Strtol
import TinyAra.Libc.Time.Calendar
import TinyAra.Libc.Time.Gregorian
import TinyAra.Libc.Time.Simple
import TinyAra.Kernel.Wdog
import TinyAra.Kernel.WdogTickless
import TinyAra.Kernel.TaskList
import TinyAra.Kernel.Mqueue
import TinyAra.Kernel.Environ
import TinyAra.Kernel.Semaphore.Holder
import TinyAra.Kernel.Semaphore.Sem
import TinyAra.Arastorage.Codec
import TinyAra.Arastorage.Lvm
import TinyAra.Arastorage.Lexer
import TinyAra.Arastorage.LvmCode
import TinyAra.Arastorage.Parser
import TinyAra.Arastorage.Bplustree
import TinyAra.Kernel.Sched.Lists
import TinyAra.Kernel.Sched.Placement
import TinyAra.Fs.Romfs
import TinyAra.Fs.MtdConfig
import TinyAra.Fs.Smart
import TinyAra.Fs.Smartfs
import TinyAra.Netutils.Ftpd
import TinyAra.Libc.Netdb.Dnsquery
import TinyAra.Fs.Files
import TinyAra.Fs.Inode
import TinyAra.Fs.Rename
import TinyAra.Kernel.Pthread.Mutex
import TinyAra.Kernel.Signal.Pending
import TinyAra.Kernel.Sched.Waitpid
import TinyAra.Kernel.Pthread.Join
import TinyAra.Netutils.Webserver
import TinyAra.Fs.InodeTree
import TinyAra.Fs.InodeTrie
import TinyAra.Lib.Numeral
import TinyAra.Libc.Vsprintf
import TinyAra.Libc.VsprintfSpec
import TinyAra.Kernel.Sched.Merge
import TinyAra.Mm.Realloc
import TinyAra.Kernel.Clock
import TinyAra.Drivers.Pipe
import TinyAra.Kernel.Pid
import TinyAra.Fs.MtdPartition
import TinyAra.Fs.SmartSector
import TinyAra.Fs.SmartCollect
import TinyAra.Arastorage.RwLock
import TinyAra.Arastorage.IndexInline
import TinyAra.Arastorage.Select
import TinyAra.Libc.Stdlib.Itoa
import TinyAra.Libc.Unistd.Getopt
import TinyAra.Kernel.Pthread.Barrier
import TinyAra.Kernel.Timer
import TinyAra.Kernel.Cpuload
import TinyAra.Kernel.Sched.Timeslice
import TinyAra.Pm.Governor
import TinyAra.Kernel.Wqueue
import TinyAra.Lib.RingBuffer
import TinyAra.Drivers.Serial
import TinyAra.Libc.Stdio.Stream
import TinyAra.Libc.Stdlib.Bsearch
import TinyAra.Netutils.Codecs.Base64
import TinyAra.Netutils.Codecs.Urldecode
import TinyAra.Lib.CString
import TinyAra.Netutils.Netlib.Parsehttpurl
import TinyAra.Libc.Netdb.Dnscache
import TinyAra.Libc.Net.Inet
import TinyAra.Libc.Netdb.Hostfile
import TinyAra.Libc.Stdio.Sscanf
import TinyAra.Lib.Rearrange
import TinyAra.Libc.Stdlib.Qsort
import TinyAra.Libc.Stdlib.QsortSpec
import TinyAra.Libc.Fixedmath
import TinyAra.Libc.Libgen
import TinyAra.Libc.Match
import TinyAra.Netutils.Ntpclient
import TinyAra.Fs.SmartCount
import TinyAra.Libc.Queue
