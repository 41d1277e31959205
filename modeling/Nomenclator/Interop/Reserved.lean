/-!
# Names that foreign headers have taken

A generated name that reaches a foreign header must not meet a macro, a type definition or a keyword
there. The names are listed by where they come from; `isReserved` looks a name up in all the lists.
Case matters: `Nil` and `nil` are taken and `NIL` is not.
-/

namespace Nomenclator.Interop

namespace Reserved

/-- Types of the foreign runtime. -/
def runtimeTypes : List String :=
  ["id", "bool", "BOOL", "SEL", "IMP", "unichar", "block_type"]

/-- Constants of the foreign runtime. -/
def runtimeConstants : List String :=
  ["nil", "Nil", "YES", "NO", "TRUE", "FALSE"]

/-- Type definitions that bridge primitive types. -/
def bridgedTypes : List String :=
  ["jbyte", "jchar", "jshort", "jint", "jlong", "jfloat", "jdouble", "jboolean", "volatile_jbyte",
   "volatile_jchar", "volatile_jshort", "volatile_jint", "volatile_jlong", "volatile_jfloat",
   "volatile_jdouble", "volatile_jboolean", "volatile_id"]

/-- Keywords of C and C++ and their common extensions. -/
def keywords : List String :=
  ["auto", "const", "entry", "extern", "goto", "inline", "register", "restrict", "signed", "sizeof",
   "struct", "typedef", "union", "unsigned", "volatile", "typeof", "and", "and_eq", "asm", "bitand",
   "bitor", "compl", "const_cast", "delete", "dynamic_cast", "explicit", "export", "friend",
   "mutable", "namespace", "not", "not_eq", "operator", "or", "or_eq", "reinterpret_cast",
   "static_cast", "template", "typeid", "typename", "using", "virtual", "wchar_t", "xor", "xor_eq"]

/-- Variables that every method has without declaring them. -/
def methodVariables : List String :=
  ["self", "isa"]

/-- The headers `stddef.h` and `stdint.h`. -/
def integerHeaderNames : List String :=
  ["ptrdiff_t", "size_t", "wint_t", "int8_t", "int16_t", "int32_t", "int64_t", "uint8_t",
   "uint16_t", "uint32_t", "uint64_t", "int_least8_t", "int_least16_t", "int_least32_t",
   "int_least64_t", "uint_least8_t", "uint_least16_t", "uint_least32_t", "uint_least64_t",
   "int_fast8_t", "int_fast16_t", "int_fast32_t", "int_fast64_t", "uint_fast8_t", "uint_fast16_t",
   "uint_fast32_t", "uint_fast64_t", "intptr_t", "uintptr_t", "intmax_t", "uintmax_t", "INT8_MAX",
   "INT16_MAX", "INT32_MAX", "INT64_MAX", "INT8_MIN", "INT16_MIN", "INT32_MIN", "INT64_MIN",
   "UINT8_MAX", "UINT16_MAX", "UINT32_MAX", "UINT64_MAX", "INT_LEAST8_MIN", "INT_LEAST16_MIN",
   "INT_LEAST32_MIN", "INT_LEAST64_MIN", "INT_LEAST8_MAX", "INT_LEAST16_MAX", "INT_LEAST32_MAX",
   "INT_LEAST64_MAX", "INT_FAST8_MIN", "INT_FAST16_MIN", "INT_FAST32_MIN", "INT_FAST64_MIN",
   "INT_FAST8_MAX", "INT_FAST16_MAX", "INT_FAST32_MAX", "INT_FAST64_MAX", "UINT_FAST8_MAX",
   "UINT_FAST16_MAX", "UINT_FAST32_MAX", "UINT_FAST64_MAX", "INTPTR_MIN", "INTPTR_MAX",
   "UINTPTR_MAX", "INTMAX_MIN", "INTMAX_MAX", "UINTMAX_MAX", "PTRDIFF_MIN", "PTRDIFF_MAX",
   "SIZE_MAX", "WCHAR_MAX", "WCHAR_MIN", "WINT_MIN", "WINT_MAX", "SIG_ATOMIC_MIN", "SIG_ATOMIC_MAX",
   "UINT8_C", "UINT16_C", "UINT32_C", "UINT64_C", "INTMAX_C", "UINTMAX_C"]

/-- The headers `stdio.h` and `stdlib.h`. -/
def standardHeaderNames : List String :=
  ["va_list", "fpos_t", "FILE", "off_t", "ssize_t", "BUFSIZ", "EOF", "FOPEN_MAX", "FILENAME_MAX",
   "R_OK", "SEEK_SET", "SEEK_CUR", "SEEK_END", "stdin", "STDIN_FILENO", "stdout", "STDOUT_FILENO",
   "stderr", "STDERR_FILENO", "TMP_MAX", "W_OK", "X_OK", "sys_errlist", "ct_rune_t", "rune_t",
   "div_t", "ldiv_t", "lldiv_t", "dev_t", "mode_t", "NULL", "EXIT_FAILURE", "EXIT_SUCCESS",
   "RAND_MAX", "MB_CUR_MAX", "MB_CUR_MAX_L"]

/-- The header `errno.h`. -/
def errorHeaderNames : List String :=
  ["errno", "EPERM", "ENOENT", "ESRCH", "EINTR", "EIO", "ENXIO", "E2BIG", "ENOEXEC", "EBADF",
   "ECHILD", "EDEADLK", "ENOMEM", "EACCES", "EFAULT", "ENOTBLK", "EBUSY", "EEXIST", "EXDEV",
   "ENODEV", "ENOTDIR", "EISDIR", "EINVAL", "ENFILE", "EMFILE", "ENOTTY", "ETXTBSY", "EFBIG",
   "ENOSPC", "ESPIPE", "EROFS", "EMLINK", "EPIPE", "EDOM", "ERANGE", "EAGAIN", "EWOULDBLOCK",
   "EINPROGRESS", "EALREADY", "ENOTSOCK", "EDESTADDRREQ", "EMSGSIZE", "EPROTOTYPE", "ENOPROTOOPT",
   "EPROTONOSUPPORT", "ESOCKTNOSUPPORT", "ENOTSUP", "ENOTSUPP", "EPFNOSUPPORT", "EAFNOSUPPORT",
   "EADDRINUSE", "EADDRNOTAVAIL", "ENETDOWN", "ENETUNREACH", "ENETRESET", "ECONNABORTED",
   "ECONNRESET", "ENOBUFS", "EISCONN", "ENOTCONN", "ESHUTDOWN", "ETOOMANYREFS", "ETIMEDOUT",
   "ECONNREFUSED", "ELOOP", "ENAMETOOLONG", "EHOSTDOWN", "EHOSTUNREACH", "ENOTEMPTY", "EPROCLIM",
   "EUSERS", "EDQUOT", "ESTALE", "EREMOTE", "EBADRPC", "ERPCMISMATCH", "EPROGUNAVAIL",
   "EPROGMISMATCH", "EPROCUNAVAIL", "ENOLCK", "ENOSYS", "EFTYPE", "EAUTH", "ENEEDAUTH", "EPWROFF",
   "EDEVERR", "EOVERFLOW", "EBADEXEC", "EBADARCH", "ESHLIBVERS", "EBADMACHO", "ECANCELED", "EIDRM",
   "ENOMSG", "ENOATTR", "EBADMSG", "EMULTIHOP", "ENODATA", "ENOLINK", "ENOSR", "ENOSTR", "EPROTO",
   "ETIME", "ENOPOLICY", "ENOTRECOVERABLE", "EOWNERDEAD", "EQFULL", "EILSEQ", "EOPNOTSUPP", "ELAST"]

/-- File control, file status and memory mapping: `fcntl.h`, `mman.h` and `stat.h`. -/
def fileHeaderNames : List String :=
  ["AT_REMOVEDIR", "AT_SYMLINK_NOFOLLOW", "F_DUPFD", "F_GETFD", "F_SETFD", "F_GETFL", "F_SETFL",
   "F_GETOWN", "F_SETOWN", "F_GETLK", "F_SETLK", "F_SETLKW", "FD_CLOEXEC", "F_RDLCK", "F_UNLCK",
   "F_WRLCK", "O_RDONLY", "O_WRONLY", "O_RDWR", "O_ACCMODE", "O_NONBLOCK", "O_APPEND", "O_SYNC",
   "O_CREAT", "O_TRUNC", "O_EXCL", "O_NOCTTY", "O_NOFOLLOW", "O_DSYNC", "MAP_FIXED", "MAP_PRIVATE",
   "MAP_SHARED", "MCL_CURRENT", "MCL_FUTURE", "MS_ASYNC", "MS_INVALIDATE", "MS_SYNC", "PROT_EXEC",
   "PROT_NONE", "PROT_READ", "PROT_WRITE", "S_IFBLK", "S_IFCHR", "S_IFDIR", "S_IFIFO", "S_IFLNK",
   "S_IFMT", "S_IFREG", "S_IFSOCK"]

/-- The headers `float.h` and `math.h`. -/
def mathHeaderNames : List String :=
  ["DBL_DIG", "DBL_EPSILON", "DOMAIN", "HUGE", "INFINITY", "M_1_PI", "M_E", "M_PI", "M_PI_2",
   "M_PI_4", "M_SQRT1_2", "M_SQRT2", "NAN", "OVERFLOW", "SING", "UNDERFLOW", "signgam"]

/-- Name lookup, interfaces and sockets: `netdb.h`, `net/if.h`, `netinet/in.h`, `netinet6/in6.h`
and `socket.h`. -/
def networkHeaderNames : List String :=
  ["AI_ADDRCONFIG", "AI_ALL", "AI_CANONNAME", "AI_NUMERICHOST", "AI_NUMERICSERV", "AI_PASSIVE",
   "AI_V4MAPPED", "EAI_AGAIN", "EAI_BADFLAGS", "EAI_FAIL", "EAI_FAMILY", "EAI_MEMORY", "EAI_NODATA",
   "EAI_NONAME", "EAI_OVERFLOW", "EAI_SERVICE", "EAI_SOCKTYPE", "EAI_SYSTEM", "HOST_NOT_FOUND",
   "NI_NAMEREQD", "NI_NUMERICHOST", "NO_DATA", "NO_RECOVERY", "TRY_AGAIN", "IFF_LOOPBACK",
   "IFF_MULTICAST", "IFF_POINTTOPOINT", "IFF_UP", "SIOCGIFADDR", "SIOCGIFBRDADDR", "SIOCGIFNETMASK",
   "SIOCGIFDSTADDR", "IP_MULTICAST_IF", "IP_TOS", "IPPROTO_IP", "IPPROTO_IPV6", "IPPROTO_TCP",
   "IPV6_MULTICAST_HOPS", "IPV6_MULTICAST_IF", "IP_MULTICAST_LOOP", "IPV6_TCLASS",
   "MCAST_JOIN_GROUP", "AF_INET", "AF_INET6", "AF_UNIX", "AF_UNSPEC", "MSG_OOB", "MSG_PEEK",
   "SHUT_RD", "SHUT_RDWR", "SHUT_WR", "SOCK_DGRAM", "SOCK_STREAM", "SOL_SOCKET", "SO_BINDTODEVICE",
   "SO_BROADCAST", "SO_ERROR", "SO_KEEPALIVE", "SO_LINGER", "SO_OOBINLINE", "SO_REUSEADDR",
   "SO_RCVBUF", "SO_RCVTIMEO", "SO_SNDBUF", "TCP_NODELAY"]

/-- The headers `param.h`, `sys/event.h`, `sys/poll.h` and `unistd.h`. -/
def systemHeaderNames : List String :=
  ["BSD", "EVFILT_READ", "EVFILT_WRITE", "POLLERR", "POLLHUP", "POLLIN", "POLLOUT", "F_OK",
   "_SC_PAGESIZE", "_SC_PAGE_SIZE", "optind", "opterr", "optopt", "optreset"]

/-- The headers `limits.h`, `machine/limits.h` and `sys/syslimits.h`. -/
def limitHeaderNames : List String :=
  ["CHAR_BIT", "CHAR_MAX", "CHAR_MIN", "INT_MAX", "INT_MIN", "LLONG_MAX", "LLONG_MIN", "LONG_BIT",
   "LONG_MAX", "LONG_MIN", "MB_LEN_MAX", "OFF_MIN", "OFF_MAX", "PTHREAD_DESTRUCTOR_ITERATIONS",
   "PTHREAD_KEYS_MAX", "PTHREAD_STACK_MIN", "QUAD_MAX", "QUAD_MIN", "SCHAR_MAX", "SCHAR_MIN",
   "SHRT_MAX", "SHRT_MIN", "SIZE_T_MAX", "SSIZE_MAX", "UCHAR_MAX", "UINT_MAX", "ULONG_MAX",
   "UQUAD_MAX", "USHRT_MAX", "UULONG_MAX", "WORD_BIT", "NL_ARGMAX", "NL_LANGMAX", "NL_MSGMAX",
   "NL_NMAX", "NL_SETMAX", "NL_TEXTMAX", "IOV_MAX", "ARG_MAX", "LINE_MAX", "MAX_INPUT", "NAME_MAX",
   "NZERO", "PATH_MAX"]

/-- Exceptions and memory pages of the kernel: `mach/exception_types.h` and
`mach/i386/vm_param.h`. -/
def machineHeaderNames : List String :=
  ["EXC_BAD_ACCESS", "EXC_BAD_INSTRUCTION", "EXC_ARITHMETIC", "EXC_EMULATION", "EXC_SOFTWARE",
   "EXC_BREAKPOINT", "EXC_SYSCALL", "EXC_MACH_SYSCALL", "EXC_RPC_ALERT", "EXC_CRASH",
   "EXC_RESOURCE", "EXC_GUARD", "EXC_CORPSE_NOTIFY", "EXCEPTION_DEFAULT", "EXCEPTION_STATE",
   "EXCEPTION_STATE_IDENTITY", "MACH_EXCEPTION_CODES", "EXC_MASK_BAD_ACCESS",
   "EXC_MASK_BAD_INSTRUCTION", "EXC_MASK_ARITHMETIC", "EXC_MASK_EMULATION", "EXC_MASK_SOFTWARE",
   "EXC_MASK_BREAKPOINT", "EXC_MASK_SYSCALL", "EXC_MASK_MACH_SYSCALL", "EXC_MASK_RPC_ALERT",
   "EXC_MASK_CRASH", "EXC_MASK_RESOURCE", "EXC_MASK_GUARD", "EXC_MASK_CORPSE_NOTIFY",
   "EXC_MASK_ALL", "FIRST_EXCEPTION", "EXC_SOFT_SIGNAL", "EXC_MACF_MIN", "EXC_MACF_MAX",
   "PAGE_SIZE", "PAGE_SHIFT", "PAGE_MASK", "I386_PGBYTES"]

/-- The headers `time.h` and `types.h`. -/
def timeAndTypeHeaderNames : List String :=
  ["daylight", "getdate_err", "timezone", "tzname", "S_IRGRP", "S_IROTH", "S_IRUSR", "S_IRWXG",
   "S_IRWXO", "S_IRWXU", "S_IWGRP", "S_IWOTH", "S_IWUSR", "S_IXGRP", "S_IXOTH", "S_IXUSR"]

/-- Definitions of the application frameworks and the usual preprocessor switches. -/
def frameworkNames : List String :=
  ["CFMSYSTEMCALLS", "CGLUESUPPORTED", "FUNCTION_PASCAL", "FUNCTION_DECLSPEC", "FUNCTION_WIN32CC",
   "GENERATING68881", "GENERATING68K", "GENERATINGCFM", "GENERATINGPOWERPC", "OLDROUTINELOCATIONS",
   "PRAGMA_ALIGN_SUPPORTED", "PRAGMA_ENUM_PACK", "PRAGMA_ENUM_ALWAYSINT", "PRAGMA_ENUM_OPTIONS",
   "PRAGMA_IMPORT", "PRAGMA_IMPORT_SUPPORTED", "PRAGMA_ONCE", "PRAGMA_STRUCT_ALIGN",
   "PRAGMA_STRUCT_PACK", "PRAGMA_STRUCT_PACKPUSH", "TARGET_API_MAC_CARBON", "TARGET_API_MAC_OS8",
   "TARGET_API_MAC_OSX", "TARGET_CARBON", "TYPE_BOOL", "TYPE_EXTENDED", "TYPE_LONGDOUBLE_IS_DOUBLE",
   "TYPE_LONGLONG", "UNIVERSAL_INTERFACES_VERSION", "BIG_ENDIAN", "BYTE_ORDER", "LITTLE_ENDIAN",
   "PDP_ENDIAN", "SEVERITY_ERROR", "positiveInfinity", "negativeInfinity", "DEBUG", "NDEBUG"]

/-- Selectors of the frameworks that come with more than one return type. -/
def frameworkSelectors : List String :=
  ["scale"]

/-- Every reserved name. -/
def names : List String :=
  runtimeTypes ++ runtimeConstants ++ bridgedTypes ++ keywords ++ methodVariables ++
    integerHeaderNames ++ standardHeaderNames ++ errorHeaderNames ++ fileHeaderNames ++
    mathHeaderNames ++ networkHeaderNames ++ systemHeaderNames ++ limitHeaderNames ++
    machineHeaderNames ++ timeAndTypeHeaderNames ++ frameworkNames ++ frameworkSelectors

/-- Every reserved name, in ascending order. -/
def sorted : List String :=
  names.mergeSort fun a b => decide (a ≤ b)

end Reserved

/-- Whether a name is reserved. -/
def isReserved (name : String) : Bool :=
  Reserved.names.contains name

end Nomenclator.Interop
