import TargetHelp.Text.Basic

/-!
# Types of the platform

The types and classes of the modules that come with the platform, in an order in which each stands
behind those above it.
-/

set_option autoImplicit false
set_option relaxedAutoImplicit false

namespace TargetHelp.Platform

def types : Text := "
  ~_frozen_importlib_external class: FileLoader _LoaderBasics
    class:_frozen_importlib_external._LoaderBasics SourceLoader
    class:_frozen_importlib_external.FileLoader,_frozen_importlib_external.SourceLoader
    SourceFileLoader
    class:_frozen_importlib_external.FileLoader,_frozen_importlib_external._LoaderBasics
    ExtensionFileLoader class: FileFinder NamespaceLoader PathFinder
    class:_frozen_importlib_external.FileLoader,_frozen_importlib_external._LoaderBasics
    SourcelessFileLoader class: WindowsRegistryFinder _NamespacePath
  ~_frozen_importlib class: ModuleSpec BuiltinImporter FrozenImporter class:RuntimeError
    _DeadlockError class: _DummyModuleLock _ImportLockContext _ModuleLock _ModuleLockManager
  ~enum class:type EnumType class:/enum.EnumType Enum class:enum.Enum ReprEnum Flag
    class:int,enum.ReprEnum,enum.Flag/enum.EnumType IntFlag class:str,enum.ReprEnum/enum.EnumType
    StrEnum class:enum.StrEnum FlagBoundary EnumCheck class:int,enum.ReprEnum/enum.EnumType
    IntEnum class:dict _EnumDict class: _auto_null _proto_member auto member nonmember
    class:types.DynamicClassAttribute property class: verify
  ~typing class: _NotIterable! _Final! class:typing._Final _BaseGenericAlias
    class:typing._NotIterable,typing._BaseGenericAlias _SpecialGenericAlias
    class:typing._BaseGenericAlias _GenericAlias class:typing._NotIterable,typing._GenericAlias
    _UnionGenericAlias class:typing._Final,typing._NotIterable _SpecialForm! class:type _AnyMeta
    class:/typing._AnyMeta Any class: Generic! class:typing.Generic IO! class:typing.IO TextIO!
    class:typing._SpecialGenericAlias _CallableType class:typing._NotIterable,typing._GenericAlias
    _CallableGenericAlias
  ~pathlib class: PurePath! class:pathlib.PurePath Path!
  ~dataclasses class: _DataclassParams!
  ~abc class:type ABCMeta class:/abc.ABCMeta ABC! class:classmethod abstractclassmethod
    class:property abstractproperty class:staticmethod abstractstaticmethod
  ~collections.abc class:/abc.ABCMeta Iterable! class:collections.abc.Iterable Iterator!
    class:/abc.ABCMeta Callable! Sized! Container!
    class:collections.abc.Sized,collections.abc.Iterable,collections.abc.Container Collection!
    class:collections.abc.Collection Mapping! class:collections.abc.Mapping MutableMapping!
    class:types.GenericAlias _CallableGenericAlias!
  ~_abc type: _abc_data
  ~_thread type: RLock lock type:tuple _ExceptHookArgs type: _local
  ~functools class:tuple CacheInfo! class:list _HashedSeq! type: _lru_cache_wrapper class:
    cached_property type: partial class: partialmethod singledispatchmethod
  ~sys type:tuple flags float_info hash_info int_info thread_info version_info
  ~types type: SimpleNamespace class: DynamicClassAttribute
  ~json.decoder class:ValueError JSONDecodeError class: JSONDecoder
  ~json.encoder class: JSONEncoder
  ~posix type: DirEntry type:tuple sched_param times_result uname_result waitid_result
  ~os class:abc.ABC PathLike class:collections.abc.MutableMapping _Environ class: _wrap_close
    type:tuple stat_result statvfs_result terminal_size
  ~builtins type:Exception OSError RuntimeError ArithmeticError AssertionError AttributeError
    type:BaseException BaseExceptionGroup type:OSError BlockingIOError ConnectionError
    type:ConnectionError BrokenPipeError type:Exception BufferError Warning type:Warning
    BytesWarning type:OSError ChildProcessError type:ConnectionError ConnectionAbortedError
    ConnectionRefusedError ConnectionResetError type:Warning DeprecationWarning type:Exception
    EOFError type: ellipsis type:Warning EncodingWarning type:BaseExceptionGroup,Exception
    ExceptionGroup type:OSError FileExistsError FileNotFoundError type:ArithmeticError
    FloatingPointError type:Warning FutureWarning type:BaseException GeneratorExit type:Exception
    ImportError type:Warning ImportWarning type:Exception SyntaxError type:SyntaxError
    IndentationError type:Exception LookupError type:LookupError IndexError type:OSError
    InterruptedError IsADirectoryError type:LookupError KeyError type:BaseException
    KeyboardInterrupt type:Exception MemoryError type:ImportError ModuleNotFoundError
    type:Exception NameError type:OSError NotADirectoryError type: NotImplementedType
    type:RuntimeError NotImplementedError type:ArithmeticError OverflowError type:Warning
    PendingDeprecationWarning type:OSError PermissionError ProcessLookupError type:RuntimeError
    RecursionError type:Exception ReferenceError type:Warning ResourceWarning RuntimeWarning
    type:Exception StopAsyncIteration StopIteration type:Warning SyntaxWarning type:Exception
    SystemError type:BaseException SystemExit type:IndentationError TabError type:OSError
    TimeoutError type:Exception TypeError type:NameError UnboundLocalError type:ValueError
    UnicodeError type:UnicodeError UnicodeDecodeError UnicodeEncodeError UnicodeTranslateError
    type:Warning UnicodeWarning UserWarning type:ArithmeticError ZeroDivisionError type: bytearray
    complex enumerate filter map memoryview range reversed slice super zip
    type:builtin_function_or_method builtin_method
  ~argparse class: _AttributeHolder class:argparse._AttributeHolder Action class: HelpFormatter
    class:argparse.HelpFormatter ArgumentDefaultsHelpFormatter class:Exception ArgumentError
    class: _ActionsContainer class:argparse._AttributeHolder,argparse._ActionsContainer
    ArgumentParser class:Exception ArgumentTypeError class:argparse.Action BooleanOptionalAction
    class: FileType class:argparse.HelpFormatter MetavarTypeHelpFormatter
    class:argparse._AttributeHolder Namespace class:argparse.HelpFormatter
    RawDescriptionHelpFormatter class:argparse.RawDescriptionHelpFormatter RawTextHelpFormatter
    class:argparse.Action _AppendAction _AppendConstAction class:argparse._ActionsContainer
    _ArgumentGroup class:argparse.Action _CountAction class:argparse._AppendAction _ExtendAction
    class:argparse.Action _HelpAction class:argparse._ArgumentGroup _MutuallyExclusiveGroup
    class:argparse.Action _StoreAction _StoreConstAction class:argparse._StoreConstAction
    _StoreFalseAction _StoreTrueAction class:argparse.Action _SubParsersAction _VersionAction
    class: HelpFormatter._Section class:argparse.Action _SubParsersAction._ChoicesPseudoAction
  ~_collections type: _tuplegetter
  ~_io type:_io._IOBase _RawIOBase type:_io._RawIOBase FileIO type:_io._IOBase _BufferedIOBase
    type:_io._BufferedIOBase BufferedReader BufferedRWPair BufferedRandom BufferedWriter BytesIO
    type: IncrementalNewlineDecoder type:_io._TextIOBase StringIO
  ~_json type: Scanner Encoder
  ~codecs class: IncrementalDecoder class:codecs.IncrementalDecoder BufferedIncrementalDecoder
    class: IncrementalEncoder class:codecs.IncrementalEncoder BufferedIncrementalEncoder class:
    Codec class:tuple CodecInfo class:codecs.Codec StreamReader class: StreamReaderWriter
    StreamRecoder class:codecs.Codec StreamWriter
  ~re class:enum.IntFlag RegexFlag type: Pattern Match class: Scanner class:Exception error
  ~warnings class: WarningMessage class:Exception _OptionError class: catch_warnings
  ~operator type: attrgetter itemgetter methodcaller
  ~_sitebuiltins class: _Printer Quitter _Helper
  ~weakref type: CallableProxyType ProxyType ReferenceType
  ~io class:OSError,ValueError UnsupportedOperation
  ~re._constants class:int _NamedIntConstant
  ~re._parser class: State SubPattern Tokenizer"

end TargetHelp.Platform
