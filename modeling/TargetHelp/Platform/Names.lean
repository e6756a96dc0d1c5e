import TargetHelp.Text.Basic

/-!
# Values of the platform

What else the modules that come with the platform hold: values of which the type is known, values
that a type enumerates, and what they have from one another.
-/

set_option autoImplicit false
set_option relaxedAutoImplicit false

namespace TargetHelp.Platform

def names : Text := "
  ~_frozen_importlib_external of:SourceFileLoader is:str name path in:FileFinder
    from:_frozen_importlib_external find_module=_find_module_shim in:WindowsRegistryFinder is:str
    REGISTRY_KEY REGISTRY_KEY_DEBUG is:bool DEBUG_BUILD in:_NamespacePath is:int _epoch
  ~_frozen_importlib in:ModuleSpec is:NoneType __hash__ of:ModuleSpec is:str name origin _cached
    is:_frozen_importlib_external.SourceFileLoader loader is:NoneType loader_state
    submodule_search_locations is:list _uninitialized_submodules is:bool _set_fileattr
    _initializing in:BuiltinImporter is:str _ORIGIN classWise:
    load_module=_load_module_shim(self,fullname) in:FrozenImporter is:str _ORIGIN _SEP
  ~enum in:Enum from:enum _new_member_=Enum.__new__ is:bool _use_args_ is:list _member_names_
    _unhashable_values_ is:dict _member_map_ _value2member_map_ from:builtins _member_type_=object
    is:NoneType _value_repr_ in:IntFlag from:enum _generate_next_value_=Flag._generate_next_value_
    __repr__=Flag.__repr__ __or__=Flag.__or__ __and__=Flag.__and__ __xor__=Flag.__xor__
    __ror__=Flag.__or__ __rand__=Flag.__and__ __rxor__=Flag.__xor__ __invert__=Flag.__invert__
    __new__=Enum.__new__ from:builtins _new_member_=int.__new__ _member_type_=int
    _value_repr_=int.__repr__ __format__=int.__format__ __str__=int.__repr__ is:bool _use_args_
    is:list _member_names_ _unhashable_values_ is:dict _member_map_ _value2member_map_
    is:enum.FlagBoundary _boundary_ is:int _flag_mask_ _singles_mask_ _all_bits_ is:NoneType
    _inverted_ in:ReprEnum from:enum _generate_next_value_=Enum._generate_next_value_
    __new__=Enum.__new__ from:builtins _new_member_=object.__new__ _member_type_=object is:bool
    _use_args_ is:list _member_names_ _unhashable_values_ is:dict _member_map_ _value2member_map_
    is:NoneType _value_repr_ in:Flag from:builtins _numeric_repr_=repr _new_member_=object.__new__
    _member_type_=object classWise: _iter_member_=Flag._iter_member_by_value_(cls,value) from:enum
    __rand__=Flag.__and__ __ror__=Flag.__or__ __rxor__=Flag.__xor__ __new__=Enum.__new__ is:bool
    _use_args_ is:list _member_names_ _unhashable_values_ is:dict _member_map_ _value2member_map_
    is:NoneType _value_repr_ _inverted_ is:enum.FlagBoundary _boundary_ is:int _flag_mask_
    _singles_mask_ _all_bits_ in:FlagBoundary choice: STRICT=strict CONFORM=conform EJECT=eject
    KEEP=keep from:enum _generate_next_value_=StrEnum._generate_next_value_ __new__=Enum.__new__
    local: _new_member_=StrEnum.__new__(cls,*values) is:bool _use_args_ is:list _member_names_
    _unhashable_values_ is:dict _member_map_ _value2member_map_ from:builtins _member_type_=str
    _value_repr_=str.__repr__ __str__=str.__str__ __format__=str.__format__ of:FlagBoundary is:str
    _value_ _name_ name value from:enum __objclass__=FlagBoundary is:int _sort_order_ in:StrEnum
    from:enum __new__=Enum.__new__ __repr__=Enum.__repr__ local:
    _new_member_=StrEnum.__new__(cls,*values) __new_member__=StrEnum.__new__(cls,*values) is:bool
    _use_args_ is:list _member_names_ _unhashable_values_ is:dict _member_map_ _value2member_map_
    from:builtins _member_type_=str _value_repr_=str.__repr__ __format__=str.__format__
    __str__=str.__str__ in:EnumCheck choice: CONTINUOUS=x NAMED_FLAGS=x UNIQUE=x from:builtins
    _new_member_=str.__new__ _member_type_=str _value_repr_=str.__repr__ __str__=str.__str__
    __format__=str.__format__ is:bool _use_args_ from:enum
    _generate_next_value_=StrEnum._generate_next_value_ __new__=Enum.__new__ is:list
    _member_names_ _unhashable_values_ is:dict _member_map_ _value2member_map_ of:EnumCheck is:str
    _value_ _name_ name value from:enum __objclass__=EnumCheck is:int _sort_order_ in:IntEnum
    from:enum _generate_next_value_=Enum._generate_next_value_ __repr__=Enum.__repr__
    __new__=Enum.__new__ from:builtins _new_member_=int.__new__ _member_type_=int
    _value_repr_=int.__repr__ __format__=int.__format__ __str__=int.__repr__ is:bool _use_args_
    is:list _member_names_ _unhashable_values_ is:dict _member_map_ _value2member_map_ in:
    is:NoneType __doc__ module: sys bltns=builtins from:builtins MappingProxyType=mappingproxy
    from:types DynamicClassAttribute from:_operator _or_=or_ from:_functools reduce is:list
    __all__ is:enum.FlagBoundary EJECT STRICT CONFORM KEEP is:tuple _stdlib_enums
    is:enum._auto_null _auto_null from:enum EnumMeta=EnumType
    _reduce_ex_by_global_name=pickle_by_global_name is:enum.EnumCheck CONTINUOUS NAMED_FLAGS
    UNIQUE
  ~typing of:_SpecialGenericAlias is:bool _inst is:str _name __doc__ from:collections.abc
    __origin__=Iterable is:NoneType __slots__ is:int _nparams in:_NotIterable is:tuple __slots__
    is:NoneType __iter__ in:_Final is:tuple __slots__ of:_UnionGenericAlias is:bool _inst
    _paramspec_tvars is:NoneType _name __slots__ is:typing._SpecialForm __origin__ is:tuple
    __args__ __parameters__ is:str __module__ in:_SpecialForm is:tuple __slots__ in:TextIO
    __slots__ __orig_bases__ __parameters__ in:IO __slots__ __orig_bases__ __parameters__
    in:Generic __slots__ is:bool _is_protocol of:_CallableType _inst is:str _name __doc__
    from:collections.abc __origin__=Callable is:NoneType __slots__ is:int _nparams
    of:_CallableGenericAlias is:bool _inst _paramspec_tvars is:str _name from:collections.abc
    __origin__=Callable is:NoneType __slots__ is:tuple __args__ __parameters__ in:
    alias:typing._SpecialGenericAlias List=list Dict=dict Set=set
    Iterable=collections.abc.Iterable Iterator=collections.abc.Iterator alias:typing._CallableType
    Callable=collections.abc.Callable alias:typing._SpecialForm Optional Union
  ~pathlib in:Path is:tuple __slots__ in:PurePath __slots__ is:property drive root
  ~dataclasses in:_DataclassParams is:tuple __slots__
  ~collections.abc in:Iterable is:tuple __slots__ classWise:types
    __class_getitem__=GenericAlias(*args) is:frozenset __abstractmethods__ is:_abc._abc_data
    _abc_impl in:Iterator is:tuple __slots__ is:frozenset __abstractmethods__ is:_abc._abc_data
    _abc_impl in:Callable is:tuple __slots__ is:classmethod __class_getitem__ is:frozenset
    __abstractmethods__ is:_abc._abc_data _abc_impl in:Mapping is:tuple __slots__ is:NoneType
    __reversed__ __hash__ is:frozenset __abstractmethods__ is:_abc._abc_data _abc_impl
    in:Collection is:tuple __slots__ is:frozenset __abstractmethods__ is:_abc._abc_data _abc_impl
    in:Sized is:tuple __slots__ is:frozenset __abstractmethods__ is:_abc._abc_data _abc_impl
    in:Container is:tuple __slots__ classWise:types __class_getitem__=GenericAlias(*args)
    is:frozenset __abstractmethods__ is:_abc._abc_data _abc_impl in:MutableMapping is:tuple
    __slots__ is:object _MutableMapping__marker is:frozenset __abstractmethods__ is:_abc._abc_data
    _abc_impl in:_CallableGenericAlias is:tuple __slots__ is:dict __annotations__
  ~functools in:CacheInfo is:tuple __slots__ _fields __match_args__ is:dict _field_defaults
    local:collections _replace=CacheInfo._replace(self,**kwds)^ __repr__=CacheInfo.__repr__(self)^
    _asdict=CacheInfo._asdict(self)^ __getnewargs__=CacheInfo.__getnewargs__(self)^
    is:_collections._tuplegetter hits misses maxsize currsize in:_HashedSeq is:str __slots__
    of:_lru_cache_wrapper local:
    cache_parameters=lru_cache.<locals>.decorating_function.<locals>.<lambda>()!^ is:str
    __module__ __name__ __qualname__ is:NoneType __doc__ is:dict __annotations__ local:re
    __wrapped__=_compile_repl(repl,pattern)! in:cached_property classWise:types
    __class_getitem__=GenericAlias(*args) in:partialmethod __class_getitem__=GenericAlias(*args)
    in: is:list __all__ from:_abc get_cache_token from:collections namedtuple from:reprlib
    recursive_repr from:_thread RLock from:types GenericAlias is:tuple WRAPPER_ASSIGNMENTS
    WRAPPER_UPDATES is:dict _convert from:_functools cmp_to_key reduce is:object _initial_missing
    _NOT_FOUND from:functools _CacheInfo=CacheInfo
  ~sys in:flags is:int n_sequence_fields n_fields n_unnamed_fields is:tuple __match_args__
    in:float_info is:int n_sequence_fields n_fields n_unnamed_fields is:tuple __match_args__
    in:hash_info is:int n_sequence_fields n_fields n_unnamed_fields is:tuple __match_args__
    in:int_info is:int n_sequence_fields n_fields n_unnamed_fields is:tuple __match_args__
    in:thread_info is:int n_sequence_fields n_fields n_unnamed_fields is:tuple __match_args__
    in:version_info is:int n_sequence_fields n_fields n_unnamed_fields is:tuple __match_args__
    loader:_frozen_importlib.BuiltinImporter in: is:dict modules path_importer_cache _xoptions
    is:_io.TextIOWrapper stderr __stderr__ __stdin__ stdin __stdout__ stdout from:sys
    __displayhook__=displayhook __excepthook__=excepthook __breakpointhook__=breakpointhook
    __unraisablehook__=unraisablehook is:str version _framework copyright platform byteorder
    abiflags float_repr_style executable _base_executable prefix base_prefix exec_prefix
    base_exec_prefix platlibdir _stdlib_dir is:int hexversion api_version maxsize maxunicode
    is:tuple _git builtin_module_names is:sys.float_info float_info is:sys.int_info int_info
    is:sys.hash_info hash_info is:frozenset stdlib_module_names is:sys.version_info version_info
    is:types.SimpleNamespace implementation is:sys.flags flags is:sys.thread_info thread_info
    is:list meta_path path_hooks path argv orig_argv warnoptions is:NoneType pycache_prefix _home
    is:bool dont_write_bytecode local:site
    __interactivehook__=enablerlcompleter.<locals>.register_readline()!
  ~types in:SimpleNamespace is:NoneType __hash__ of:SimpleNamespace is:str name cache_tag
    _multiarch filename origname is:sys.version_info version is:int hexversion
  ~json.decoder of:JSONDecoder is:NoneType object_hook object_pairs_hook from:builtins
    parse_float=float parse_int=int bound:dict parse_constant=__getitem__ is:bool strict
    from:json.decoder parse_object=JSONObject parse_array=JSONArray from:_json
    parse_string=scanstring is:dict memo is:_json.Scanner scan_once in: module: re
    scanner=json.scanner from:_json c_scanstring=scanstring scanstring is:list __all__
    is:re.RegexFlag FLAGS is:float NaN PosInf NegInf is:dict _CONSTANTS BACKSLASH is:re.Pattern
    STRINGCHUNK WHITESPACE is:str WHITESPACE_STR
  ~json.encoder in:JSONEncoder is:str item_separator key_separator of:JSONEncoder is:bool skipkeys
    ensure_ascii check_circular allow_nan sort_keys is:NoneType indent in: module: re from:_json
    c_encode_basestring_ascii=encode_basestring_ascii c_encode_basestring=encode_basestring
    c_make_encoder=Encoder encode_basestring encode_basestring_ascii is:re.Pattern ESCAPE
    ESCAPE_ASCII HAS_UTF8 is:dict ESCAPE_DCT is:float INFINITY
  ~os in:PathLike classWise:types __class_getitem__=GenericAlias(*args) is:frozenset
    __abstractmethods__ is:_abc._abc_data _abc_impl in:_Environ is:frozenset __abstractmethods__
    is:_abc._abc_data _abc_impl of:_Environ local:
    encodekey=_createenviron.<locals>.encode(value)!^
    decodekey=_createenviron.<locals>.decode(value)!^
    encodevalue=_createenviron.<locals>.encode(value)!^
    decodevalue=_createenviron.<locals>.decode(value)!^ is:dict _data in:stat_result is:int
    n_sequence_fields n_fields n_unnamed_fields is:tuple __match_args__ in:statvfs_result is:int
    n_sequence_fields n_fields n_unnamed_fields is:tuple __match_args__ in:terminal_size is:int
    n_sequence_fields n_fields n_unnamed_fields is:tuple __match_args__
    loader:_frozen_importlib.FrozenImporter in: is:str __file__ name linesep curdir pardir sep
    pathsep defpath extsep devnull is:dict __builtins__ pathconf_names confstr_names sysconf_names
    module: abc sys st=stat path=posixpath from:collections.abc _check_methods MutableMapping
    Mapping from:types GenericAlias is:list __all__ from:posix stat access ttyname chdir chmod
    fchmod chown fchown lchown chroot ctermid getcwd getcwdb link listdir lstat mkdir nice
    getpriority setpriority posix_spawn posix_spawnp readlink splice rename replace rmdir symlink
    system umask uname unlink remove utime times execv execve fork register_at_fork
    sched_get_priority_max sched_get_priority_min sched_getparam sched_getscheduler
    sched_rr_get_interval sched_setparam sched_setscheduler sched_yield sched_setaffinity
    sched_getaffinity openpty login_tty forkpty getegid geteuid getgid getgrouplist getgroups
    getpid getpgrp getppid getuid getlogin kill killpg setuid seteuid setreuid setgid setegid
    setregid setgroups initgroups getpgid setpgrp wait wait3 wait4 waitid waitpid getsid setsid
    setpgid tcgetpgrp tcsetpgrp open close closerange device_encoding dup dup2 lockf lseek read
    readv pread preadv write writev pwrite pwritev sendfile fstat isatty pipe pipe2 mkfifo mknod
    major minor makedev ftruncate truncate posix_fallocate posix_fadvise putenv unsetenv strerror
    fchdir fsync sync fdatasync WCOREDUMP WIFCONTINUED WIFSTOPPED WIFSIGNALED WIFEXITED
    WEXITSTATUS WTERMSIG WSTOPSIG fstatvfs statvfs confstr sysconf fpathconf pathconf abort
    getloadavg urandom setresuid setresgid getresuid getresgid getxattr setxattr removexattr
    listxattr get_terminal_size cpu_count get_inheritable set_inheritable get_blocking
    set_blocking scandir fspath eventfd eventfd_read eventfd_write waitstatus_to_exitcode
    waitid_result sched_param DirEntry times_result uname_result _exit is:os._Environ environ
    environb is:int F_OK R_OK W_OK X_OK NGROUPS_MAX TMP_MAX WCONTINUED WNOHANG WUNTRACED O_RDONLY
    O_WRONLY O_RDWR O_NDELAY O_NONBLOCK O_APPEND O_DSYNC O_RSYNC O_SYNC O_NOCTTY O_CREAT O_EXCL
    O_TRUNC O_LARGEFILE O_PATH O_TMPFILE PRIO_PROCESS PRIO_PGRP PRIO_USER O_CLOEXEC O_ACCMODE
    O_FSYNC SEEK_HOLE SEEK_DATA O_ASYNC O_DIRECT O_DIRECTORY O_NOFOLLOW O_NOATIME EX_OK EX_USAGE
    EX_DATAERR EX_NOINPUT EX_NOUSER EX_NOHOST EX_UNAVAILABLE EX_SOFTWARE EX_OSERR EX_OSFILE
    EX_CANTCREAT EX_IOERR EX_TEMPFAIL EX_PROTOCOL EX_NOPERM EX_CONFIG ST_RDONLY ST_NOSUID ST_NODEV
    ST_NOEXEC ST_SYNCHRONOUS ST_MANDLOCK ST_WRITE ST_APPEND ST_NOATIME ST_NODIRATIME ST_RELATIME
    POSIX_FADV_NORMAL POSIX_FADV_SEQUENTIAL POSIX_FADV_RANDOM POSIX_FADV_NOREUSE
    POSIX_FADV_WILLNEED POSIX_FADV_DONTNEED P_PID P_PGID P_ALL WEXITED WNOWAIT WSTOPPED CLD_EXITED
    CLD_KILLED CLD_DUMPED CLD_TRAPPED CLD_STOPPED CLD_CONTINUED F_LOCK F_TLOCK F_ULOCK F_TEST
    SPLICE_F_MOVE SPLICE_F_NONBLOCK SPLICE_F_MORE POSIX_SPAWN_OPEN POSIX_SPAWN_CLOSE
    POSIX_SPAWN_DUP2 SCHED_OTHER SCHED_FIFO SCHED_RR SCHED_BATCH SCHED_IDLE SCHED_RESET_ON_FORK
    XATTR_CREATE XATTR_REPLACE XATTR_SIZE_MAX RTLD_LAZY RTLD_NOW RTLD_GLOBAL RTLD_LOCAL
    RTLD_NODELETE RTLD_NOLOAD RTLD_DEEPBIND EFD_CLOEXEC EFD_NONBLOCK EFD_SEMAPHORE SEEK_SET
    SEEK_CUR SEEK_END P_WAIT P_NOWAIT P_NOWAITO from:builtins error=OSError is:NoneType altsep
    is:set supports_dir_fd supports_effective_ids supports_fd supports_follow_symlinks is:bool
    supports_bytes_environ from:os fsencode=_fscodec.<locals>.fsencode
    fsdecode=_fscodec.<locals>.fsdecode
  ~abc in:ABC is:tuple __slots__ is:frozenset __abstractmethods__ is:_abc._abc_data _abc_impl
    in:abstractclassmethod is:bool __isabstractmethod__ in:abstractproperty __isabstractmethod__
    in:abstractstaticmethod __isabstractmethod__ loader:_frozen_importlib.FrozenImporter in:
    is:str __file__ is:dict __builtins__ from:_abc get_cache_token _abc_init _abc_register
    _abc_instancecheck _abc_subclasscheck _get_dump _reset_registry _reset_caches
  ~posix in:sched_param is:int n_sequence_fields n_fields n_unnamed_fields is:tuple __match_args__
    in:times_result is:int n_sequence_fields n_fields n_unnamed_fields is:tuple __match_args__
    in:uname_result is:int n_sequence_fields n_fields n_unnamed_fields is:tuple __match_args__
    in:waitid_result is:int n_sequence_fields n_fields n_unnamed_fields is:tuple __match_args__
    loader:_frozen_importlib.BuiltinImporter in: is:dict environ pathconf_names confstr_names
    sysconf_names is:int F_OK R_OK W_OK X_OK NGROUPS_MAX TMP_MAX WCONTINUED WNOHANG WUNTRACED
    O_RDONLY O_WRONLY O_RDWR O_NDELAY O_NONBLOCK O_APPEND O_DSYNC O_RSYNC O_SYNC O_NOCTTY O_CREAT
    O_EXCL O_TRUNC O_LARGEFILE O_PATH O_TMPFILE PRIO_PROCESS PRIO_PGRP PRIO_USER O_CLOEXEC
    O_ACCMODE O_FSYNC SEEK_HOLE SEEK_DATA O_ASYNC O_DIRECT O_DIRECTORY O_NOFOLLOW O_NOATIME EX_OK
    EX_USAGE EX_DATAERR EX_NOINPUT EX_NOUSER EX_NOHOST EX_UNAVAILABLE EX_SOFTWARE EX_OSERR
    EX_OSFILE EX_CANTCREAT EX_IOERR EX_TEMPFAIL EX_PROTOCOL EX_NOPERM EX_CONFIG ST_RDONLY
    ST_NOSUID ST_NODEV ST_NOEXEC ST_SYNCHRONOUS ST_MANDLOCK ST_WRITE ST_APPEND ST_NOATIME
    ST_NODIRATIME ST_RELATIME POSIX_FADV_NORMAL POSIX_FADV_SEQUENTIAL POSIX_FADV_RANDOM
    POSIX_FADV_NOREUSE POSIX_FADV_WILLNEED POSIX_FADV_DONTNEED P_PID P_PGID P_ALL WEXITED WNOWAIT
    WSTOPPED CLD_EXITED CLD_KILLED CLD_DUMPED CLD_TRAPPED CLD_STOPPED CLD_CONTINUED F_LOCK F_TLOCK
    F_ULOCK F_TEST SPLICE_F_MOVE SPLICE_F_NONBLOCK SPLICE_F_MORE POSIX_SPAWN_OPEN
    POSIX_SPAWN_CLOSE POSIX_SPAWN_DUP2 SCHED_OTHER SCHED_FIFO SCHED_RR SCHED_BATCH SCHED_IDLE
    SCHED_RESET_ON_FORK XATTR_CREATE XATTR_REPLACE XATTR_SIZE_MAX RTLD_LAZY RTLD_NOW RTLD_GLOBAL
    RTLD_LOCAL RTLD_NODELETE RTLD_NOLOAD RTLD_DEEPBIND EFD_CLOEXEC EFD_NONBLOCK EFD_SEMAPHORE
    from:builtins error=OSError from:os stat_result statvfs_result terminal_size is:list
    _have_functions
  ~argparse in:HelpFormatter from:argparse _Section=HelpFormatter._Section in:Namespace
    is:NoneType __hash__ in:_SubParsersAction from:argparse
    _ChoicesPseudoAction=_SubParsersAction._ChoicesPseudoAction in: is:str __version__ SUPPRESS
    OPTIONAL ZERO_OR_MORE ONE_OR_MORE PARSER REMAINDER _UNRECOGNIZED_ARGS_ATTR is:list __all__
    module: _os=os _re=re _sys=sys warnings from:gettext _=gettext ngettext
  ~_io of:FileIO is:str name
  ~_json of:Scanner from:builtins parse_float=float parse_int=int bound:dict
    parse_constant=__getitem__ loader:_frozen_importlib.BuiltinImporter in: from:_json
    make_scanner=Scanner make_encoder=Encoder
  ~codecs in:CodecInfo is:bool _is_text_encoding in:StreamReader from:builtins charbuffertype=str
    in:StreamReaderWriter is:str encoding in:StreamRecoder data_encoding file_encoding
    loader:_frozen_importlib.FrozenImporter in: builtin:1 strict_errors! ignore_errors!
    replace_errors! xmlcharrefreplace_errors! backslashreplace_errors! namereplace_errors! is:str
    __file__ is:dict __builtins__ module: builtins sys from:_codecs register unregister lookup
    encode decode escape_encode escape_decode utf_8_encode utf_8_decode utf_7_encode utf_7_decode
    utf_16_encode utf_16_le_encode utf_16_be_encode utf_16_decode utf_16_le_decode
    utf_16_be_decode utf_16_ex_decode utf_32_encode utf_32_le_encode utf_32_be_encode
    utf_32_decode utf_32_le_decode utf_32_be_decode utf_32_ex_decode unicode_escape_encode
    unicode_escape_decode raw_unicode_escape_encode raw_unicode_escape_decode latin_1_encode
    latin_1_decode ascii_encode ascii_decode charmap_encode charmap_decode charmap_build
    readbuffer_encode register_error lookup_error is:list __all__ is:bytes BOM_UTF8 BOM_LE
    BOM_UTF16_LE BOM_BE BOM_UTF16_BE BOM_UTF32_LE BOM_UTF32_BE BOM BOM_UTF16 BOM_UTF32 BOM32_LE
    BOM32_BE BOM64_LE BOM64_BE is:int _false
  ~re in:RegexFlag choice:int NOFLAG=0 ASCII=256 A@ASCII=256 IGNORECASE=2 I@IGNORECASE=2 LOCALE=4
    L@LOCALE=4 UNICODE=32 U@UNICODE=32 MULTILINE=8 M@MULTILINE=8 DOTALL=16 S@DOTALL=16 VERBOSE=64
    X@VERBOSE=64 TEMPLATE=1 T@TEMPLATE=1 DEBUG=128 from:builtins _new_member_=int.__new__
    _member_type_=int _value_repr_=int.__repr__ __str__=object.__str__ _numeric_repr_=hex
    __format__=int.__format__ is:bool _use_args_ from:enum
    _generate_next_value_=Flag._generate_next_value_ __or__=Flag.__or__ __xor__=Flag.__xor__
    __and__=Flag.__and__ __ror__=Flag.__or__ __rxor__=Flag.__xor__ __rand__=Flag.__and__
    __invert__=Flag.__invert__ __new__=Enum.__new__ __repr__=global_flag_repr is:list
    _member_names_ _unhashable_values_ is:dict _member_map_ _value2member_map_
    is:enum.FlagBoundary _boundary_ is:int _flag_mask_ _all_bits_ _singles_mask_ is:NoneType
    _inverted_ of:RegexFlag is:int _value_ _sort_order_ value is:str _name_ name from:re
    __objclass__=RegexFlag in:error local:re._constants
    __init__=error.__init__(self,msg,pattern=,pos=)!^ in: module: enum functools copyreg is:list
    __all__ is:str __version__ is:re.RegexFlag NOFLAG ASCII A IGNORECASE I LOCALE L UNICODE U
    MULTILINE M DOTALL S VERBOSE X TEMPLATE T DEBUG is:dict _special_chars_map _cache is:int
    _MAXCACHE is:functools._lru_cache_wrapper _compile_repl
  ~warnings in:WarningMessage is:tuple _WARNING_DETAILS in: module: sys is:list __all__ filters
    from:warnings _showwarning_orig=showwarning _formatwarning_orig=formatwarning from:_warnings
    warn warn_explicit _filters_mutated is:str _DEPRECATED_MSG _defaultaction defaultaction
    is:dict _onceregistry onceregistry
  ~builtins in:bytearray is:NoneType __hash__ in:slice __hash__
    loader:_frozen_importlib.BuiltinImporter in: None is:ellipsis Ellipsis is:NotImplementedType
    NotImplemented is:bool False True __debug__ from:builtins bool bytes classmethod dict float
    frozenset property int list object set staticmethod str tuple type BaseException Exception
    ValueError EnvironmentError=OSError IOError=OSError from:io open is:_sitebuiltins.Quitter quit
    exit is:_sitebuiltins._Printer copyright credits license is:_sitebuiltins._Helper help
  ~_sitebuiltins in:_Printer is:int MAXLINES local: _Printer__setup=_Printer.__setup(self)!
    of:_Printer is:str _Printer__name _Printer__data is:NoneType _Printer__lines is:list
    _Printer__filenames of:Quitter is:str name eof
  ~_thread in:_ExceptHookArgs is:int n_sequence_fields n_fields n_unnamed_fields is:tuple
    __match_args__ loader:_frozen_importlib.BuiltinImporter in: from:_thread LockType=lock
    from:builtins error=RuntimeError is:float TIMEOUT_MAX
  ~weakref in:CallableProxyType is:NoneType __hash__ in:ProxyType __hash__
  ~re._constants in:_NamedIntConstant is:NoneType __reduce__ of:_NamedIntConstant is:str name in:
    is:int MAGIC MAXGROUPS SRE_FLAG_TEMPLATE SRE_FLAG_IGNORECASE SRE_FLAG_LOCALE
    SRE_FLAG_MULTILINE SRE_FLAG_DOTALL SRE_FLAG_UNICODE SRE_FLAG_VERBOSE SRE_FLAG_DEBUG
    SRE_FLAG_ASCII SRE_INFO_PREFIX SRE_INFO_LITERAL SRE_INFO_CHARSET
    is:re._constants._NamedIntConstant MAXREPEAT FAILURE SUCCESS ANY ANY_ALL ASSERT ASSERT_NOT AT
    BRANCH CATEGORY CHARSET BIGCHARSET GROUPREF GROUPREF_EXISTS IN INFO JUMP LITERAL MARK
    MAX_UNTIL MIN_UNTIL NOT_LITERAL NEGATE RANGE REPEAT REPEAT_ONE SUBPATTERN MIN_REPEAT_ONE
    ATOMIC_GROUP POSSESSIVE_REPEAT POSSESSIVE_REPEAT_ONE GROUPREF_IGNORE IN_IGNORE LITERAL_IGNORE
    NOT_LITERAL_IGNORE GROUPREF_LOC_IGNORE IN_LOC_IGNORE LITERAL_LOC_IGNORE NOT_LITERAL_LOC_IGNORE
    GROUPREF_UNI_IGNORE IN_UNI_IGNORE LITERAL_UNI_IGNORE NOT_LITERAL_UNI_IGNORE RANGE_UNI_IGNORE
    MIN_REPEAT MAX_REPEAT AT_BEGINNING AT_BEGINNING_LINE AT_BEGINNING_STRING AT_BOUNDARY
    AT_NON_BOUNDARY AT_END AT_END_LINE AT_END_STRING AT_LOC_BOUNDARY AT_LOC_NON_BOUNDARY
    AT_UNI_BOUNDARY AT_UNI_NON_BOUNDARY CATEGORY_DIGIT CATEGORY_NOT_DIGIT CATEGORY_SPACE
    CATEGORY_NOT_SPACE CATEGORY_WORD CATEGORY_NOT_WORD CATEGORY_LINEBREAK CATEGORY_NOT_LINEBREAK
    CATEGORY_LOC_WORD CATEGORY_LOC_NOT_WORD CATEGORY_UNI_DIGIT CATEGORY_UNI_NOT_DIGIT
    CATEGORY_UNI_SPACE CATEGORY_UNI_NOT_SPACE CATEGORY_UNI_WORD CATEGORY_UNI_NOT_WORD
    CATEGORY_UNI_LINEBREAK CATEGORY_UNI_NOT_LINEBREAK from:re error is:list OPCODES ATCODES
    CHCODES is:dict OP_IGNORE OP_LOCALE_IGNORE OP_UNICODE_IGNORE AT_MULTILINE AT_LOCALE AT_UNICODE
    CH_LOCALE CH_UNICODE
  ~re._parser in:Tokenizer local: _Tokenizer__next=Tokenizer.__next(self)! in: is:int MAGIC
    MAXGROUPS SRE_FLAG_TEMPLATE SRE_FLAG_IGNORECASE SRE_FLAG_LOCALE SRE_FLAG_MULTILINE
    SRE_FLAG_DOTALL SRE_FLAG_UNICODE SRE_FLAG_VERBOSE SRE_FLAG_DEBUG SRE_FLAG_ASCII
    SRE_INFO_PREFIX SRE_INFO_LITERAL SRE_INFO_CHARSET TYPE_FLAGS GLOBAL_FLAGS MAXWIDTH
    is:re._constants._NamedIntConstant MAXREPEAT FAILURE SUCCESS ANY ANY_ALL ASSERT ASSERT_NOT AT
    BRANCH CATEGORY CHARSET BIGCHARSET GROUPREF GROUPREF_EXISTS IN INFO JUMP LITERAL MARK
    MAX_UNTIL MIN_UNTIL NOT_LITERAL NEGATE RANGE REPEAT REPEAT_ONE SUBPATTERN MIN_REPEAT_ONE
    ATOMIC_GROUP POSSESSIVE_REPEAT POSSESSIVE_REPEAT_ONE GROUPREF_IGNORE IN_IGNORE LITERAL_IGNORE
    NOT_LITERAL_IGNORE GROUPREF_LOC_IGNORE IN_LOC_IGNORE LITERAL_LOC_IGNORE NOT_LITERAL_LOC_IGNORE
    GROUPREF_UNI_IGNORE IN_UNI_IGNORE LITERAL_UNI_IGNORE NOT_LITERAL_UNI_IGNORE RANGE_UNI_IGNORE
    MIN_REPEAT MAX_REPEAT AT_BEGINNING AT_BEGINNING_LINE AT_BEGINNING_STRING AT_BOUNDARY
    AT_NON_BOUNDARY AT_END AT_END_LINE AT_END_STRING AT_LOC_BOUNDARY AT_LOC_NON_BOUNDARY
    AT_UNI_BOUNDARY AT_UNI_NON_BOUNDARY CATEGORY_DIGIT CATEGORY_NOT_DIGIT CATEGORY_SPACE
    CATEGORY_NOT_SPACE CATEGORY_WORD CATEGORY_NOT_WORD CATEGORY_LINEBREAK CATEGORY_NOT_LINEBREAK
    CATEGORY_LOC_WORD CATEGORY_LOC_NOT_WORD CATEGORY_UNI_DIGIT CATEGORY_UNI_NOT_DIGIT
    CATEGORY_UNI_SPACE CATEGORY_UNI_NOT_SPACE CATEGORY_UNI_WORD CATEGORY_UNI_NOT_WORD
    CATEGORY_UNI_LINEBREAK CATEGORY_UNI_NOT_LINEBREAK from:re error is:list OPCODES ATCODES
    CHCODES is:dict OP_IGNORE OP_LOCALE_IGNORE OP_UNICODE_IGNORE AT_MULTILINE AT_LOCALE AT_UNICODE
    CH_LOCALE CH_UNICODE ESCAPES CATEGORIES FLAGS is:str SPECIAL_CHARS REPEAT_CHARS is:frozenset
    DIGITS OCTDIGITS HEXDIGITS ASCIILETTERS WHITESPACE _REPEATCODES _UNITCODES
  ~json is:str __version__ __author__ is:list __all__ from:json.decoder JSONDecoder
    JSONDecodeError from:json.encoder JSONEncoder module: codecs is:json.encoder.JSONEncoder
    _default_encoder is:json.decoder.JSONDecoder _default_decoder
  ~importlib is:list __all__ module: _imp sys warnings from:_frozen_importlib_external
    _pack_uint32 _unpack_uint32 from:_frozen_importlib __import__ is:dict _RELOADING
  ~json.scanner module: re from:_json c_make_scanner=Scanner make_scanner=Scanner is:list __all__
    is:re.Pattern NUMBER_RE
  ~importlib._bootstrap loader:_frozen_importlib.FrozenImporter is:dict __builtins__ _module_locks
    _blocking_on from:_frozen_importlib _object_name _wrap _new_module _DeadlockError _ModuleLock
    _DummyModuleLock _ModuleLockManager _get_module_lock _lock_unlock_module
    _call_with_frames_removed _verbose_message _requires_builtin _requires_frozen
    _load_module_shim _module_repr ModuleSpec spec_from_loader _spec_from_module
    _init_module_attrs module_from_spec _module_repr_from_spec _exec _load_backward_compatible
    _load_unlocked _load BuiltinImporter FrozenImporter _ImportLockContext _resolve_name
    _find_spec_legacy _find_spec _sanity_check _find_and_load_unlocked _find_and_load _gcd_import
    _handle_fromlist _calc___package__ __import__ _builtin_from_name _setup _install
    _install_external_importers module: _thread _warnings _weakref
    _bootstrap_external=importlib._bootstrap_external _imp sys is:str _ERR_MSG_PREFIX _ERR_MSG
    __file__ is:object _NEEDS_LOADING
  ~importlib._bootstrap_external loader:_frozen_importlib.FrozenImporter is:str __file__
    path_separators path_sep _PYCACHE _OPT is:dict __builtins__ module:
    _bootstrap=importlib._bootstrap _imp _io=io sys _warnings marshal _os=posix is:bool
    _MS_WINDOWS is:tuple path_sep_tuple _CASE_INSENSITIVE_PLATFORMS_STR_KEY
    _CASE_INSENSITIVE_PLATFORMS_BYTES_KEY _CASE_INSENSITIVE_PLATFORMS is:set _pathseps_with_colon
    from:_frozen_importlib_external _make_relax_case _pack_uint32 _unpack_uint32 _unpack_uint16
    _path_join _path_split _path_stat _path_is_mode_type _path_isfile _path_isdir _path_isabs
    _write_atomic cache_from_source source_from_cache _get_sourcefile _get_cached _calc_mode
    _check_name _find_module_shim _classify_pyc _validate_timestamp_pyc _validate_hash_pyc
    _compile_bytecode _code_to_timestamp_pyc _code_to_hash_pyc decode_source
    spec_from_file_location WindowsRegistryFinder _LoaderBasics SourceLoader FileLoader
    SourceFileLoader SourcelessFileLoader ExtensionFileLoader _NamespacePath NamespaceLoader
    _NamespaceLoader=NamespaceLoader PathFinder FileFinder _fix_up_module
    _get_supported_file_loaders _set_bootstrap_module _install local:_frozen_importlib_external
    _relax_case=_make_relax_case.<locals>._relax_case() from:builtins _code_type=code is:bytes
    MAGIC_NUMBER is:int _RAW_MAGIC_NUMBER is:list SOURCE_SUFFIXES EXTENSION_SUFFIXES
    BYTECODE_SUFFIXES DEBUG_BYTECODE_SUFFIXES OPTIMIZED_BYTECODE_SUFFIXES is:object _POPULATE
  ~_imp loader:_frozen_importlib.BuiltinImporter is:str check_hash_based_pycs
  ~importlib.machinery loader:_frozen_importlib.FrozenImporter is:str __file__ is:dict
    __builtins__ from:_frozen_importlib ModuleSpec BuiltinImporter FrozenImporter is:list
    SOURCE_SUFFIXES DEBUG_BYTECODE_SUFFIXES OPTIMIZED_BYTECODE_SUFFIXES BYTECODE_SUFFIXES
    EXTENSION_SUFFIXES from:_frozen_importlib_external WindowsRegistryFinder PathFinder FileFinder
    SourceFileLoader SourcelessFileLoader ExtensionFileLoader NamespaceLoader
  ~posixpath loader:_frozen_importlib.FrozenImporter is:str __file__ curdir pardir extsep sep
    pathsep defpath devnull is:dict __builtins__ is:NoneType altsep _varprog _varprogb module: os
    sys stat genericpath from:genericpath commonprefix exists getatime getctime getmtime getsize
    isdir isfile samefile sameopenfile samestat is:list __all__ from:posix _path_normpath is:bool
    supports_unicode_filenames
  ~stat loader:_frozen_importlib.FrozenImporter is:str __file__ is:dict __builtins__ is:int
    ST_MODE ST_INO ST_DEV ST_NLINK ST_UID ST_GID ST_SIZE ST_ATIME ST_MTIME ST_CTIME S_IFDIR
    S_IFCHR S_IFBLK S_IFREG S_IFIFO S_IFLNK S_IFSOCK S_IFDOOR S_IFPORT S_IFWHT S_ISUID S_ISGID
    S_ENFMT S_ISVTX S_IREAD S_IWRITE S_IEXEC S_IRWXU S_IRUSR S_IWUSR S_IXUSR S_IRWXG S_IRGRP
    S_IWGRP S_IXGRP S_IRWXO S_IROTH S_IWOTH S_IXOTH UF_NODUMP UF_IMMUTABLE UF_APPEND UF_OPAQUE
    UF_NOUNLINK UF_COMPRESSED UF_HIDDEN SF_ARCHIVED SF_IMMUTABLE SF_APPEND SF_NOUNLINK SF_SNAPSHOT
    FILE_ATTRIBUTE_ARCHIVE FILE_ATTRIBUTE_COMPRESSED FILE_ATTRIBUTE_DEVICE
    FILE_ATTRIBUTE_DIRECTORY FILE_ATTRIBUTE_ENCRYPTED FILE_ATTRIBUTE_HIDDEN
    FILE_ATTRIBUTE_INTEGRITY_STREAM FILE_ATTRIBUTE_NORMAL FILE_ATTRIBUTE_NOT_CONTENT_INDEXED
    FILE_ATTRIBUTE_NO_SCRUB_DATA FILE_ATTRIBUTE_OFFLINE FILE_ATTRIBUTE_READONLY
    FILE_ATTRIBUTE_REPARSE_POINT FILE_ATTRIBUTE_SPARSE_FILE FILE_ATTRIBUTE_SYSTEM
    FILE_ATTRIBUTE_TEMPORARY FILE_ATTRIBUTE_VIRTUAL from:_stat S_IMODE S_IFMT S_ISDIR S_ISCHR
    S_ISBLK S_ISREG S_ISFIFO S_ISLNK S_ISSOCK S_ISDOOR S_ISPORT S_ISWHT filemode is:tuple
    _filemode_table
  ~_functools loader:_frozen_importlib.BuiltinImporter from:functools partial _lru_cache_wrapper
  ~_abc loader:_frozen_importlib.BuiltinImporter
  ~_warnings loader:_frozen_importlib.BuiltinImporter is:list filters is:dict _onceregistry is:str
    _defaultaction
  ~_weakref loader:_frozen_importlib.BuiltinImporter from:weakref ref=ReferenceType ReferenceType
    ProxyType CallableProxyType
  ~io loader:_frozen_importlib.BuiltinImporter is:int DEFAULT_BUFFER_SIZE from:builtins
    BlockingIOError from:_io _IOBase IncrementalNewlineDecoder _BufferedIOBase _RawIOBase
    _TextIOBase BytesIO BufferedReader BufferedWriter BufferedRWPair BufferedRandom FileIO
    StringIO TextIOWrapper
  ~marshal loader:_frozen_importlib.BuiltinImporter is:int version
  ~genericpath loader:_frozen_importlib.FrozenImporter is:str __file__ is:dict __builtins__
    module: os stat is:list __all__
  ~re._casefix is:NoneType __doc__ is:dict _EXTRA_CASES
  ~re._compiler module: _sre _parser=re._parser is:int MAGIC MAXGROUPS SRE_FLAG_TEMPLATE
    SRE_FLAG_IGNORECASE SRE_FLAG_LOCALE SRE_FLAG_MULTILINE SRE_FLAG_DOTALL SRE_FLAG_UNICODE
    SRE_FLAG_VERBOSE SRE_FLAG_DEBUG SRE_FLAG_ASCII SRE_INFO_PREFIX SRE_INFO_LITERAL
    SRE_INFO_CHARSET _CODEBITS MAXCODE is:re._constants._NamedIntConstant MAXREPEAT FAILURE
    SUCCESS ANY ANY_ALL ASSERT ASSERT_NOT AT BRANCH CATEGORY CHARSET BIGCHARSET GROUPREF
    GROUPREF_EXISTS IN INFO JUMP LITERAL MARK MAX_UNTIL MIN_UNTIL NOT_LITERAL NEGATE RANGE REPEAT
    REPEAT_ONE SUBPATTERN MIN_REPEAT_ONE ATOMIC_GROUP POSSESSIVE_REPEAT POSSESSIVE_REPEAT_ONE
    GROUPREF_IGNORE IN_IGNORE LITERAL_IGNORE NOT_LITERAL_IGNORE GROUPREF_LOC_IGNORE IN_LOC_IGNORE
    LITERAL_LOC_IGNORE NOT_LITERAL_LOC_IGNORE GROUPREF_UNI_IGNORE IN_UNI_IGNORE LITERAL_UNI_IGNORE
    NOT_LITERAL_UNI_IGNORE RANGE_UNI_IGNORE MIN_REPEAT MAX_REPEAT AT_BEGINNING AT_BEGINNING_LINE
    AT_BEGINNING_STRING AT_BOUNDARY AT_NON_BOUNDARY AT_END AT_END_LINE AT_END_STRING
    AT_LOC_BOUNDARY AT_LOC_NON_BOUNDARY AT_UNI_BOUNDARY AT_UNI_NON_BOUNDARY CATEGORY_DIGIT
    CATEGORY_NOT_DIGIT CATEGORY_SPACE CATEGORY_NOT_SPACE CATEGORY_WORD CATEGORY_NOT_WORD
    CATEGORY_LINEBREAK CATEGORY_NOT_LINEBREAK CATEGORY_LOC_WORD CATEGORY_LOC_NOT_WORD
    CATEGORY_UNI_DIGIT CATEGORY_UNI_NOT_DIGIT CATEGORY_UNI_SPACE CATEGORY_UNI_NOT_SPACE
    CATEGORY_UNI_WORD CATEGORY_UNI_NOT_WORD CATEGORY_UNI_LINEBREAK CATEGORY_UNI_NOT_LINEBREAK
    from:re error is:list OPCODES ATCODES CHCODES is:dict OP_IGNORE OP_LOCALE_IGNORE
    OP_UNICODE_IGNORE AT_MULTILINE AT_LOCALE AT_UNICODE CH_LOCALE CH_UNICODE _EXTRA_CASES
    _REPEATING_CODES is:set _LITERAL_CODES _SUCCESS_CODES _ASSERT_CODES _UNIT_CODES is:bytes
    _BITS_TRANS
  ~copyreg is:list __all__ is:dict dispatch_table _extension_registry _inverted_registry
    _extension_cache is:int _HEAPTYPE from:builtins _new_type=builtin_function_or_method
  ~_codecs loader:_frozen_importlib.BuiltinImporter is:NoneType __doc__
  ~_stat loader:_frozen_importlib.BuiltinImporter is:int S_IFDIR S_IFCHR S_IFBLK S_IFREG S_IFIFO
    S_IFLNK S_IFSOCK S_IFDOOR S_IFPORT S_IFWHT S_ISUID S_ISGID S_ISVTX S_ENFMT S_IREAD S_IWRITE
    S_IEXEC S_IRWXU S_IRUSR S_IWUSR S_IXUSR S_IRWXG S_IRGRP S_IWGRP S_IXGRP S_IRWXO S_IROTH
    S_IWOTH S_IXOTH UF_NODUMP UF_IMMUTABLE UF_APPEND UF_OPAQUE UF_NOUNLINK UF_COMPRESSED UF_HIDDEN
    SF_ARCHIVED SF_IMMUTABLE SF_APPEND SF_NOUNLINK SF_SNAPSHOT ST_MODE ST_INO ST_DEV ST_NLINK
    ST_UID ST_GID ST_SIZE ST_ATIME ST_MTIME ST_CTIME
  ~_sre loader:_frozen_importlib.BuiltinImporter is:NoneType __doc__ is:int MAGIC CODESIZE
    MAXREPEAT MAXGROUPS is:str copyright
  ~_operator loader:_frozen_importlib.BuiltinImporter from:operator attrgetter itemgetter
    methodcaller"

end TargetHelp.Platform
