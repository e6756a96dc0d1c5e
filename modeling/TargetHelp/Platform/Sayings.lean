import TargetHelp.Thing.Reply

/-!
# Sayings of the platform

What the callables of the platform say to the arguments of a parser, unless it is what their
parameters tell.
-/

set_option autoImplicit false
set_option relaxedAutoImplicit false

namespace TargetHelp.Platform

def saying (reply : Reply) (paths : Text) : Reply × Text := (reply, paths)

/-- Replies with the paths of the callables that reply so. -/
def sayings : List (Reply × Text) := [
  saying (.gives "SourceFileLoader") "_frozen_importlib_external.SourceFileLoader",
  saying (.givesMany "str") (
    "_frozen_importlib_external.SourceFileLoader.path_stats " ++
    "typing._GenericAlias._make_substitution+ pathlib.PurePath.suffix " ++
    "pathlib.PurePath.suffixes pathlib.PurePath.stem " ++
    "argparse.ArgumentParser.convert_arg_line_to_args " ++
    "argparse._ActionsContainer._get_positional_kwargs codecs.StreamReader.readlines next " ++
    "enum.pickle_by_global_name"),
  saying (.fails (.noMember "_io.TextIOWrapper" "rfind"))
    "_frozen_importlib_external.SourceFileLoader.set_data+",
  saying (.gives "FileLoader") "_frozen_importlib_external.FileLoader",
  saying (.gives "bool") (
    "_frozen_importlib_external.FileLoader.__eq__ collections.abc.Callable.__call__ " ++
    "collections.abc.Container.__contains__ argparse.Namespace.__contains__ " ++
    "_frozen_importlib_external.ExtensionFileLoader.__eq__ " ++
    "_frozen_importlib_external.NamespaceLoader.is_package hasattr enum._is_internal_class " ++
    "enum._is_private _operator.contains _operator.is_ _operator.is_not _operator.eq " ++
    "_operator.ne"),
  saying (.tells (Kind.ofLabel "IsADirectoryError") fun _ directory =>
      "[Errno 21] Is a directory: " ++ directory.display)
    "_frozen_importlib_external.FileLoader.get_data",
  saying (.fails (.raised (Kind.ofLabel "OSError") []))
    "_frozen_importlib_external.SourceLoader.path_mtime",
  saying (.refuses "compile() arg 1 must be a string, bytes or AST object")
    "_frozen_importlib_external.SourceLoader.source_to_code+",
  saying (.gives "ModuleSpec") "_frozen_importlib.ModuleSpec _frozen_importlib.spec_from_loader",
  saying (.refuses "type.__new__() argument 1 must be str, not _io.TextIOWrapper") (
    "enum.Enum enum.EnumType.__call__+ enum.EnumType._create_+ enum.IntFlag enum.ReprEnum " ++
    "enum.Flag enum.StrEnum enum.IntEnum"),
  saying (.formats) "enum.Enum.__format__",
  saying (.givesLines)
    "enum.Enum.__deepcopy__ os._wrap_close functools.update_wrapper _weakref.proxy",
  saying (.refuses "EnumType.__new__() missing 1 required positional argument: 'classdict'")
    "enum.EnumType",
  saying (.fails (.noMember "str" "__mro__")) (
    "enum.EnumType.__prepare__ enum.EnumType._check_for_existing_members_ " ++
    "enum.EnumType._get_mixins_ enum.EnumType._find_data_repr_ " ++
    "enum.EnumType._find_data_type_"),
  saying (.refuses "_io.TextIOWrapper.__new__(X): X is not a type object (_io.TextIOWrapper)")
    "enum.EnumType.__call__ copyreg.__newobj__",
  saying (.refuses "unsupported operand type(s) for 'in': 'str' and 'TextIOWrapper'")
    "enum.EnumType.__contains__ enum.Flag.__contains__",
  saying (.fails (.noMember "_io.TextIOWrapper" "__name__"))
    "typing._SpecialGenericAlias typing._CallableType",
  saying (.tells (Kind.ofLabel "SyntaxError") fun _ directory =>
      "Forward reference must be an expression -- got " ++ directory.display) (
    "typing._SpecialGenericAlias.__getitem__ typing._SpecialGenericAlias.__or__ " ++
    "typing._SpecialGenericAlias.__ror__ typing._UnionGenericAlias.copy_with " ++
    "typing._GenericAlias.__or__ typing._GenericAlias.__ror__ typing._SpecialForm.__or__ " ++
    "typing._SpecialForm.__ror__"),
  saying (.refuses (
      "_SpecialGenericAlias.__getitem__() takes 2 positional arguments but 3 " ++
      "were given"))
    "typing._SpecialGenericAlias.__getitem__+",
  saying (.refuses "_BaseGenericAlias.__init__() takes 2 positional arguments but 3 were given")
    "typing._BaseGenericAlias",
  saying (.refuses "Iterable() takes no arguments") "typing._BaseGenericAlias.__call__+",
  saying (.tells Kind.member fun _ directory => directory.plain)
    "typing._BaseGenericAlias.__getattr__ typing._SpecialForm.__getattr__",
  saying (.fails (.noMember "_io.TextIOWrapper" "startswith"))
    "typing._BaseGenericAlias.__setattr__+",
  saying (.refuses "Subscripted generics cannot be used with class and instance checks")
    "typing._BaseGenericAlias.__subclasscheck__",
  saying (.refuses "Cannot subclass special typing classes") "typing._Final.__init_subclass__",
  saying (.fails (.noMember "_io.TextIOWrapper" "__module__"))
    "typing._UnionGenericAlias typing._GenericAlias typing._CallableGenericAlias",
  saying (.gives "NotImplementedType") (
    "typing._UnionGenericAlias.__eq__ typing._GenericAlias.__eq__ pathlib.PurePath.__eq__ " ++
    "pathlib.PurePath.__lt__ pathlib.PurePath.__le__ pathlib.PurePath.__gt__ " ++
    "pathlib.PurePath.__ge__ collections.abc.Mapping.__eq__ os._Environ.__or__ " ++
    "os._Environ.__ror__ argparse.Namespace.__eq__ functools._gt_from_lt " ++
    "functools._le_from_lt functools._ge_from_lt functools._ge_from_le " ++
    "functools._lt_from_le functools._gt_from_le functools._lt_from_gt " ++
    "functools._ge_from_gt functools._le_from_gt functools._le_from_ge " ++
    "functools._gt_from_ge functools._lt_from_ge"),
  saying (.refuses "_GenericAlias.__getitem__() takes 2 positional arguments but 3 were given")
    "typing._GenericAlias.__getitem__+",
  saying (.refuses "_SpecialForm.__init__() takes 2 positional arguments but 3 were given")
    "typing._SpecialForm",
  saying (.fails (.noMember "str" "__name__")) "typing._SpecialForm.__init__",
  saying (.tells Kind.type fun source _ => "Cannot subclass " ++ source)
    "typing._SpecialForm.__mro_entries__",
  saying (.tells Kind.type fun source _ => "Cannot instantiate " ++ source)
    "typing._SpecialForm.__call__",
  saying (.refuses "Cannot instantiate typing.Union") "typing._SpecialForm.__call__+",
  saying (.tells Kind.type fun source _ => source ++ " cannot be used with isinstance()")
    "typing._SpecialForm.__instancecheck__",
  saying (.tells Kind.type fun source _ => source ++ " cannot be used with issubclass()")
    "typing._SpecialForm.__subclasscheck__",
  saying (.refuses "_SpecialForm.__getitem__() takes 2 positional arguments but 3 were given")
    "typing._SpecialForm.__getitem__+",
  saying (.refuses "Any cannot be instantiated") "typing.Any",
  saying (.refuses "super(type, obj): obj must be an instance or subtype of type") (
    "typing.Any.__new__ typing._AnyMeta.__instancecheck__ argparse.ArgumentParser.__init__ " ++
    "argparse._ArgumentGroup._add_action argparse._ArgumentGroup._remove_action " ++
    "argparse._ArgumentGroup.add_argument_group argparse._HelpAction.__init__ " ++
    "argparse._MutuallyExclusiveGroup.__init__ " ++
    "argparse._MutuallyExclusiveGroup.add_mutually_exclusive_group " ++
    "argparse._VersionAction.__init__ re._constants.error.__init__"),
  saying (.refuses "type.__new__() takes exactly 3 arguments (2 given)") "typing._AnyMeta",
  saying (.gives "NoneType") (
    "typing.TextIO.buffer typing.TextIO.encoding typing.TextIO.errors " ++
    "typing.TextIO.line_buffering typing.TextIO.newlines typing.IO.mode typing.IO.name " ++
    "typing.IO.closed"),
  saying (.refuses "Generic.__class_getitem__() takes 2 positional arguments but 3 were given")
    "typing.Generic.__class_getitem__",
  saying (.refuses "Generic.__init_subclass__() takes no arguments (2 given)")
    "typing.Generic.__init_subclass__",
  saying (.refuses "Callable must be used as Callable[[arg, ...], result].")
    "typing._CallableType.__getitem__ collections.abc._CallableGenericAlias",
  saying (.fails (.raised Kind.value [.str "too many values to unpack (expected 2)"])) (
    "typing._CallableType.__getitem_inner__ _frozen_importlib_external.FileFinder " ++
    "re.Scanner re._compiler._optimize_charset"),
  saying (.refuses (
      "_CallableType.__getitem_inner__() takes 2 positional arguments but 3 were " ++
      "given"))
    "typing._CallableType.__getitem_inner__+",
  saying (.refuses "expected str, bytes or os.PathLike object, not TextIOWrapper") (
    "pathlib.Path pathlib.Path.resolve pathlib.Path.open pathlib.PurePath _io.FileIO " ++
    "_io.FileIO.__init__ posix.initgroups posix.putenv os.makedirs os.walk os.fwalk " ++
    "os.execlp os.execlpe os.execvp os._execvpe codecs.open " ++
    "_frozen_importlib_external.cache_from_source posixpath.join posixpath.relpath io.open"),
  saying (.fails (.noMember "_io.TextIOWrapper" "_flavour"))
    "pathlib.Path.glob pathlib.Path.rglob",
  saying (.refuses "memoryview: a bytes-like object is required, not 'str'")
    "pathlib.Path.write_bytes",
  saying (.refuses (
      "utime: path should be string, bytes, os.PathLike or integer, not " ++
      "TextIOWrapper"))
    "pathlib.Path.touch posix.utime",
  saying (.refuses "mkdir: path should be string, bytes or os.PathLike, not TextIOWrapper")
    "pathlib.Path.mkdir posix.mkdir",
  saying (.refuses (
      "chmod: path should be string, bytes, os.PathLike or integer, not " ++
      "TextIOWrapper"))
    "pathlib.Path.chmod posix.chmod",
  saying (.refuses "unlink: path should be string, bytes or os.PathLike, not TextIOWrapper")
    "pathlib.Path.unlink",
  saying (.refuses "rename: src should be string, bytes or os.PathLike, not TextIOWrapper")
    "pathlib.Path.rename posix.rename os.renames",
  saying (.refuses "replace: src should be string, bytes or os.PathLike, not TextIOWrapper")
    "pathlib.Path.replace posix.replace",
  saying (.refuses "symlink: dst should be string, bytes or os.PathLike, not TextIOWrapper")
    "pathlib.Path.symlink_to",
  saying (.refuses "link: dst should be string, bytes or os.PathLike, not TextIOWrapper")
    "pathlib.Path.hardlink_to",
  saying (.fails (.noMember "str" "readable")) "pathlib.Path.link_to",
  saying (.refuses (
      "_DataclassParams.__init__() missing 4 required positional arguments: " ++
      "'eq', 'order', 'unsafe_hash', and 'frozen'"))
    "dataclasses._DataclassParams",
  saying (.refuses "ABCMeta.__new__() missing 1 required positional argument: 'namespace'")
    "abc.ABCMeta",
  saying (.refuses "Can only register classes") "abc.ABCMeta.register _abc._abc_register",
  saying (.refuses "issubclass() arg 1 must be a class")
    "abc.ABCMeta.__subclasscheck__ _abc._abc_subclasscheck issubclass enum.global_enum",
  saying (.gives "_abc._abc_data") "_abc._abc_data",
  saying (.gives "_thread.RLock") "_thread.RLock",
  saying (.refuses (
      "CacheInfo.__new__() missing 2 required positional arguments: 'maxsize' " ++
      "and 'currsize'"))
    "functools.CacheInfo",
  saying (.refuses "'str' object is not callable")
    "functools._HashedSeq json.decoder.JSONDecoder.decode+",
  saying (.refuses "'_io.TextIOWrapper' object does not support item assignment")
    "functools._HashedSeq.__init__",
  saying (.refuses "lru_cache() missing required argument 'typed' (pos 3)")
    "functools._lru_cache_wrapper",
  saying (.refuses "decoding to str: need a bytes-like object, _io.TextIOWrapper found") (
    "functools._lru_cache_wrapper.__call__ re.Pattern.sub re.Pattern.subn re._parser.parse " ++
    "re._parser.parse_template re._compile_repl"),
  saying (.gives "functools._lru_cache_wrapper")
    "functools._lru_cache_wrapper.__copy__ functools._lru_cache_wrapper.__deepcopy__",
  saying (.refuses "cached_property.__init__() takes 2 positional arguments but 3 were given")
    "functools.cached_property",
  saying (.refuses "the first argument must be callable") "functools.partial",
  saying (.tells Kind.type fun _ directory =>
      "" ++ directory.display ++ " is not callable or a descriptor")
    "functools.partialmethod.__init__ functools.singledispatchmethod.__init__",
  saying (.refuses (
      "singledispatchmethod.__init__() takes 2 positional arguments but 3 were " ++
      "given"))
    "functools.singledispatchmethod",
  saying (.refuses "is_builtin() argument must be str, not _io.TextIOWrapper") (
    "_frozen_importlib.BuiltinImporter.find_spec " ++
    "_frozen_importlib.BuiltinImporter.find_module"),
  saying (.refuses "cannot create 'sys.flags' instances") "sys.flags",
  saying (.refuses "sys.float_info() takes a dict as second arg, if any") "sys.float_info",
  saying (.refuses "sys.hash_info() takes a dict as second arg, if any") "sys.hash_info",
  saying (.refuses "no positional arguments expected")
    "types.SimpleNamespace types.SimpleNamespace.__init__",
  saying (.refuses "sys.int_info() takes a dict as second arg, if any") "sys.int_info",
  saying (.refuses "sys.thread_info() takes a dict as second arg, if any") "sys.thread_info",
  saying (.refuses "cannot create 'sys.version_info' instances") "sys.version_info",
  saying (.refuses "JSONDecodeError.__init__() missing 1 required positional argument: 'pos'")
    "json.decoder.JSONDecodeError",
  saying (.refuses "JSONDecoder.__init__() takes 1 positional argument but 3 were given")
    "json.decoder.JSONDecoder",
  saying (.refuses "'str' object cannot be interpreted as an integer") (
    "json.decoder.JSONDecoder.raw_decode+ _io.FileIO.seek _io.BufferedReader " ++
    "_io.BufferedReader.__init__ _io.BufferedReader.seek _json.Scanner.__call__ " ++
    "re.Pattern.match re.Pattern.fullmatch re.Pattern.search re.Pattern.findall " ++
    "re.Pattern.split re.Pattern.finditer re.Pattern.scanner enumerate _io.BufferedRandom " ++
    "_io.BufferedWriter _io.IncrementalNewlineDecoder _json.scanstring io.text_encoding " ++
    "marshal.dumps _operator.length_hint"),
  saying (.refuses "JSONEncoder.__init__() takes 1 positional argument but 3 were given")
    "json.encoder.JSONEncoder",
  saying (.refuses "Object of type str is not JSON serializable")
    "json.encoder.JSONEncoder.default",
  saying (.refuses "Object of type TextIOWrapper is not JSON serializable")
    "json.encoder.JSONEncoder.iterencode+ json.dump",
  saying (.refuses "cannot create 'posix.DirEntry' instances") "posix.DirEntry",
  saying (.fails (.raised Kind.key []))
    "collections.abc.Mapping.__getitem__ collections.abc.MutableMapping.__delitem__",
  saying (.refuses "'_io.TextIOWrapper' object is not subscriptable") (
    "collections.abc.Mapping.get collections.abc.Mapping.__contains__ " ++
    "collections.abc.MutableMapping.pop collections.abc.MutableMapping.setdefault " ++
    "_operator.getitem"),
  saying (.refuses "str expected, not TextIOWrapper") (
    "collections.abc.Mapping.get+ collections.abc.MutableMapping.pop+ " ++
    "os._Environ.__setitem__+ os._Environ.setdefault+ os.getenv"),
  saying (.fails (.raised Kind.value [.str "not enough values to unpack (expected 2, got 1)"])) (
    "collections.abc.MutableMapping.update re.Scanner.__init__ enum._EnumDict.update " ++
    "json.decoder.JSONArray"),
  saying (.refuses (
      "_Environ.__init__() missing 3 required positional arguments: 'decodekey', " ++
      "'encodevalue', and 'decodevalue'"))
    "os._Environ",
  saying (.refuses "find_frozen() argument 1 must be str, not _io.TextIOWrapper")
    "_frozen_importlib.FrozenImporter.find_spec",
  saying (.refuses "is_frozen() argument must be str, not _io.TextIOWrapper")
    "_frozen_importlib.FrozenImporter.find_module",
  saying (.refuses "sched_param() takes at most 1 argument (2 given)") "posix.sched_param",
  saying (.refuses "os.stat_result() takes a dict as second arg, if any") "os.stat_result",
  saying (.refuses "os.statvfs_result() takes a dict as second arg, if any") "os.statvfs_result",
  saying (.refuses "os.terminal_size() takes a dict as second arg, if any") "os.terminal_size",
  saying (.refuses "posix.times_result() takes a dict as second arg, if any")
    "posix.times_result",
  saying (.refuses "posix.uname_result() takes a dict as second arg, if any")
    "posix.uname_result",
  saying (.refuses "posix.waitid_result() takes a dict as second arg, if any")
    "posix.waitid_result",
  saying (.gives "Action") "argparse.Action",
  saying (.refuses "'>' not supported between instances of 'str' and 'int'") (
    "argparse.ArgumentDefaultsHelpFormatter argparse.HelpFormatter " ++
    "argparse.MetavarTypeHelpFormatter argparse.RawDescriptionHelpFormatter " ++
    "argparse.RawTextHelpFormatter"),
  saying (.fails (.noMember "str" "help")) (
    "argparse.ArgumentDefaultsHelpFormatter._get_help_string " ++
    "argparse.HelpFormatter.add_argument argparse.HelpFormatter._get_help_string"),
  saying (.givesDirectory) "argparse.HelpFormatter._join_parts re._parser.SubPattern",
  saying (.fails (.noMember "str" "option_strings")) (
    "argparse.HelpFormatter._format_action_invocation argparse.ArgumentParser._add_action " ++
    "argparse._ActionsContainer._check_conflict"),
  saying (.refuses "vars() argument must have __dict__ attribute")
    "argparse.HelpFormatter._expand_help",
  saying (.givesNone) (
    "argparse.HelpFormatter._iter_indented_subactions " ++
    "_frozen_importlib_external.NamespaceLoader.get_source"),
  saying (.fails (.noMember "str" "dest")) (
    "argparse.HelpFormatter._get_default_metavar_for_optional " ++
    "argparse.HelpFormatter._get_default_metavar_for_positional"),
  saying (.fails (.noMember "_io.TextIOWrapper" "option_strings")) "argparse.ArgumentError",
  saying (.gives "ArgumentParser") "argparse.ArgumentParser",
  saying (.fails (.noMember "str" "nargs")) "argparse.ArgumentParser._get_nargs_pattern",
  saying (.refuses (
      "_ActionsContainer.__init__() missing 2 required positional arguments: " ++
      "'argument_default' and 'conflict_handler'"))
    "argparse._ActionsContainer",
  saying (.fails (.noMember "str" "pop")) "argparse._ActionsContainer._pop_action_class",
  saying (.gives "BooleanOptionalAction") "argparse.BooleanOptionalAction",
  saying (.gives "FileType") "argparse.FileType",
  saying (.fails (.noMember "str" "type")) (
    "argparse.MetavarTypeHelpFormatter._get_default_metavar_for_optional " ++
    "argparse.MetavarTypeHelpFormatter._get_default_metavar_for_positional"),
  saying (.refuses "Namespace.__init__() takes 1 positional argument but 3 were given")
    "argparse.Namespace",
  saying (.gives "_AppendAction") "argparse._AppendAction",
  saying (.gives "_AppendConstAction") "argparse._AppendConstAction",
  saying (.fails (.noMember "_io.TextIOWrapper" "conflict_handler"))
    "argparse._ArgumentGroup argparse._MutuallyExclusiveGroup",
  saying (.fails (.noMember "str" "conflict_handler")) "argparse._ArgumentGroup.__init__",
  saying (.gives "_CountAction") "argparse._CountAction",
  saying (.gives "_ExtendAction") "argparse._ExtendAction",
  saying (.gives "_HelpAction") "argparse._HelpAction",
  saying (.fails (.noMember "str" "required")) "argparse._MutuallyExclusiveGroup._add_action",
  saying (.gives "_StoreAction") "argparse._StoreAction",
  saying (.gives "_StoreConstAction") "argparse._StoreConstAction",
  saying (.gives "_StoreFalseAction") "argparse._StoreFalseAction",
  saying (.gives "_StoreTrueAction") "argparse._StoreTrueAction",
  saying (.refuses (
      "_SubParsersAction.__init__() missing 1 required positional argument: " ++
      "'parser_class'"))
    "argparse._SubParsersAction",
  saying (.gives "_VersionAction") "argparse._VersionAction",
  saying (.refuses "'_io.TextIOWrapper' object cannot be interpreted as an integer") (
    "_collections._tuplegetter range posix.fchmod posix.getpriority posix.sched_setparam " ++
    "posix.sched_setaffinity posix.kill posix.killpg posix.wait4 posix.waitpid " ++
    "posix.setpgid posix.tcsetpgrp posix.closerange posix.dup2 posix.read posix.readv " ++
    "posix.write posix.writev posix.makedev posix.ftruncate posix.set_inheritable " ++
    "posix.set_blocking _imp.source_hash genericpath.sameopenfile"),
  saying (.fails (.raised (Kind.ofLabel "NotImplementedError") [])) (
    "_io._RawIOBase codecs.IncrementalDecoder.decode codecs.IncrementalEncoder.encode " ++
    "codecs.Codec.encode codecs.Codec.decode codecs.StreamReader.decode"),
  saying (.fails (.raised Kind.unsupported [.str "read"])) "_io._BufferedIOBase",
  saying (.refuses "make_scanner() takes at most 1 argument (2 given)") "_json.Scanner",
  saying (.refuses (
      "BufferedIncrementalDecoder.__init__() takes from 1 to 2 positional " ++
      "arguments but 3 were given"))
    "codecs.BufferedIncrementalDecoder",
  saying (.fails (.raised Kind.member [.str (
      "attribute 'errors' of '_io.TextIOWrapper' objects is not writable")])) (
    "codecs.BufferedIncrementalDecoder.__init__ codecs.IncrementalDecoder.__init__ " ++
    "codecs.BufferedIncrementalEncoder.__init__ codecs.IncrementalEncoder.__init__ " ++
    "codecs.StreamReader.__init__ codecs.StreamWriter.__init__"),
  saying (.refuses "unsupported operand type(s) for +: '_io.BufferedReader' and 'str'")
    "codecs.BufferedIncrementalDecoder.decode codecs.BufferedIncrementalEncoder.encode",
  saying (.fails (.raised Kind.member [.str "readonly attribute"]))
    "codecs.BufferedIncrementalDecoder.setstate codecs.BufferedIncrementalEncoder.setstate",
  saying (.refuses (
      "IncrementalDecoder.__init__() takes from 1 to 2 positional arguments but " ++
      "3 were given"))
    "codecs.IncrementalDecoder",
  saying (.refuses (
      "BufferedIncrementalEncoder.__init__() takes from 1 to 2 positional " ++
      "arguments but 3 were given"))
    "codecs.BufferedIncrementalEncoder",
  saying (.refuses (
      "IncrementalEncoder.__init__() takes from 1 to 2 positional arguments but " ++
      "3 were given"))
    "codecs.IncrementalEncoder",
  saying (.givesMany streamType) "codecs.CodecInfo",
  saying (.refuses "can't concat str to bytes") "codecs.StreamReader",
  saying (.refuses "can't serialize TextIOWrapper") (
    "codecs.StreamReader.__reduce_ex__ codecs.StreamReaderWriter.__reduce_ex__ " ++
    "codecs.StreamRecoder.__reduce_ex__ codecs.StreamWriter.__reduce_ex__"),
  saying (.refuses (
      "StreamReaderWriter.__init__() missing 1 required positional argument: " ++
      "'Writer'"))
    "codecs.StreamReaderWriter",
  saying (.refuses (
      "StreamRecoder.__init__() missing 3 required positional arguments: " ++
      "'decode', 'Reader', and 'Writer'"))
    "codecs.StreamRecoder",
  saying (.refuses "sequence item 0: expected a bytes-like object, str found")
    "codecs.StreamRecoder.writelines",
  saying (.gives "StreamWriter") "codecs.StreamWriter",
  saying (.fails (.raised Kind.unsupported [.str "not writable"]))
    "codecs.StreamWriter.writelines",
  saying (.tells Kind.type fun source _ =>
      "<enum " ++ source ++ "> cannot extend <flag 'RegexFlag'>")
    "re.RegexFlag",
  saying (.refuses "cannot create 're.Pattern' instances") "re.Pattern",
  saying (.refuses "make_encoder() missing required argument 'encoder' (pos 3)") "_json.Encoder",
  saying (.refuses "_DummyModuleLock.__init__() takes 2 positional arguments but 3 were given")
    "_frozen_importlib._DummyModuleLock",
  saying (.fails (.raised Kind.member [.str (
      "attribute 'name' of '_io.TextIOWrapper' objects is not writable")]))
    "_frozen_importlib._DummyModuleLock.__init__ _frozen_importlib._ModuleLock.__init__",
  saying (.refuses "_ModuleLock.__init__() takes 2 positional arguments but 3 were given")
    "_frozen_importlib._ModuleLock",
  saying (.refuses "_ModuleLockManager.__init__() takes 2 positional arguments but 3 were given")
    "_frozen_importlib._ModuleLockManager",
  saying (.gives "ExtensionFileLoader") "_frozen_importlib_external.ExtensionFileLoader",
  saying (.fails (.noMember "str" "name"))
    "_frozen_importlib_external.ExtensionFileLoader.create_module",
  saying (.gives "function") "_frozen_importlib_external.FileFinder.path_hook",
  saying (.refuses (
      "NamespaceLoader.__init__() missing 1 required positional argument: " ++
      "'path_finder'"))
    "_frozen_importlib_external.NamespaceLoader",
  saying (.gives "code") "_frozen_importlib_external.NamespaceLoader.get_code",
  saying (.fails (.noMember "str" "find_module"))
    "_frozen_importlib_external.PathFinder._legacy_get_spec",
  saying (.refuses (
      "MetadataPathFinder.find_distributions() takes from 1 to 2 positional " ++
      "arguments but 3 were given"))
    "_frozen_importlib_external.PathFinder.find_distributions",
  saying (.gives "SourcelessFileLoader") "_frozen_importlib_external.SourcelessFileLoader",
  saying (.fails (.raised (Kind.ofLabel "NameError") [.str "name 'winreg' is not defined"])) (
    "_frozen_importlib_external.WindowsRegistryFinder.find_spec " ++
    "_frozen_importlib_external.WindowsRegistryFinder.find_module"),
  saying (.refuses (
      "_NamespacePath.__init__() missing 1 required positional argument: " ++
      "'path_finder'"))
    "_frozen_importlib_external._NamespacePath",
  saying (.refuses (
      "WarningMessage.__init__() missing 2 required positional arguments: " ++
      "'filename' and 'lineno'"))
    "warnings.WarningMessage",
  saying (.refuses "catch_warnings.__init__() takes 1 positional argument but 3 were given")
    "warnings.catch_warnings",
  saying (.refuses "attribute name must be a string") "operator.attrgetter",
  saying (.refuses "attrgetter expected 1 argument, got 2") "operator.attrgetter.__call__",
  saying (.refuses (
      "abstractclassmethod.__init__() takes 2 positional arguments but 3 were " ++
      "given"))
    "abc.abstractclassmethod",
  saying (.fails (.noMember "str" "__isabstractmethod__"))
    "abc.abstractclassmethod.__init__ abc.abstractstaticmethod.__init__",
  saying (.refuses (
      "abstractstaticmethod.__init__() takes 2 positional arguments but 3 were " ++
      "given"))
    "abc.abstractstaticmethod",
  saying (.gives "_Section") "argparse.HelpFormatter._Section",
  saying (.refuses (
      "_SubParsersAction._ChoicesPseudoAction.__init__() missing 1 required " ++
      "positional argument: 'help'"))
    "argparse._SubParsersAction._ChoicesPseudoAction",
  saying (.refuses "cannot create 're.Match' instances") "re.Match",
  saying (.gives "error") "re.error",
  saying (.refuses "BaseExceptionGroup.__new__() argument 1 must be str, not _io.TextIOWrapper")
    "BaseExceptionGroup ExceptionGroup",
  saying (.refuses "EllipsisType takes no arguments") "ellipsis",
  saying (.refuses "function takes at most 6 arguments (18 given)")
    "IndentationError SyntaxError TabError",
  saying (.refuses "NotImplementedType takes no arguments") "NotImplementedType",
  saying (.refuses "function takes exactly 5 arguments (2 given)")
    "UnicodeDecodeError UnicodeEncodeError",
  saying (.refuses "function takes exactly 4 arguments (2 given)") "UnicodeTranslateError",
  saying (.refuses "encoding without a string argument") "bytearray",
  saying (.refuses "a bytes-like object is required, not '_io.TextIOWrapper'") (
    "bytearray.maketrans _codecs.escape_decode _codecs.utf_8_decode _codecs.utf_7_decode " ++
    "_codecs.utf_16_decode _codecs.utf_16_le_decode _codecs.utf_16_be_decode " ++
    "_codecs.utf_16_ex_decode _codecs.utf_32_decode _codecs.utf_32_le_decode " ++
    "_codecs.utf_32_be_decode _codecs.utf_32_ex_decode _codecs.unicode_escape_decode " ++
    "_codecs.raw_unicode_escape_decode _codecs.latin_1_decode _codecs.ascii_decode " ++
    "_codecs.charmap_decode _codecs.readbuffer_encode " ++
    "_frozen_importlib_external._compile_bytecode"),
  saying (.refuses "complex() second arg can't be a string") "complex",
  saying (.gives "_Printer") "_sitebuiltins._Printer",
  saying (.gives "Quitter") "_sitebuiltins.Quitter",
  saying (.refuses "'_io.TextIOWrapper' object is not callable") (
    "filter map _functools.reduce _frozen_importlib._call_with_frames_removed " ++
    "_operator.call"),
  saying (.refuses "Helper.__call__() takes from 1 to 2 positional arguments but 3 were given")
    "_sitebuiltins._Helper.__call__+",
  saying (.refuses "memoryview() takes at most 1 argument (2 given)") "memoryview",
  saying (.refuses "reversed expected 1 argument, got 2") "reversed",
  saying (.gives "slice") "slice",
  saying (.refuses "super() argument 1 must be a type, not _io.TextIOWrapper") "super",
  saying (.givesMany "tuple") "zip",
  saying (.tells Kind.type fun source _ =>
      "<enum " ++ source ++ "> cannot extend <enum 'FlagBoundary'>")
    "enum.FlagBoundary",
  saying (.refuses "cannot create 'builtin_method' instances") "builtin_method",
  saying (.refuses "cannot create '_thread.lock' instances") "_thread.lock",
  saying (.refuses "_thread._ExceptHookArgs() takes a dict as second arg, if any")
    "_thread._ExceptHookArgs",
  saying (.refuses "Initialization arguments are not supported") "_thread._local",
  saying (.refuses "cannot create 'weakref.CallableProxyType' instances")
    "weakref.CallableProxyType",
  saying (.refuses "cannot create 'weakref.ProxyType' instances") "weakref.ProxyType",
  saying (.fails (.noMember "str" "writable")) "_io.BufferedRWPair",
  saying (.refuses "BytesIO() takes at most 1 argument (2 given)") "_io.BytesIO",
  saying (.tells Kind.value fun _ directory => "illegal newline value: " ++ directory.display)
    "_io.StringIO",
  saying (.refuses (
      "int() argument must be a string, a bytes-like object or a real number, " ++
      "not '_io.TextIOWrapper'"))
    "re._constants._NamedIntConstant",
  saying (.refuses "State.__init__() takes 1 positional argument but 3 were given")
    "re._parser.State",
  saying (.refuses "Tokenizer.__init__() takes 2 positional arguments but 3 were given")
    "re._parser.Tokenizer",
  saying (.tells Kind.type fun source _ =>
      "<enum " ++ source ++ "> cannot extend <enum 'EnumCheck'>")
    "enum.EnumCheck",
  saying (.gives "DynamicClassAttribute") "types.DynamicClassAttribute",
  saying (.refuses "_EnumDict.__init__() takes 1 positional argument but 3 were given")
    "enum._EnumDict",
  saying (.refuses "_proto_member.__init__() takes 2 positional arguments but 3 were given")
    "enum._proto_member",
  saying (.refuses "auto.__init__() takes from 1 to 2 positional arguments but 3 were given")
    "enum.auto",
  saying (.refuses "member.__init__() takes 2 positional arguments but 3 were given")
    "enum.member",
  saying (.refuses "nonmember.__init__() takes 2 positional arguments but 3 were given")
    "enum.nonmember",
  saying (.gives "property") "enum.property",
  saying (.gives "verify") "enum.verify",
  saying (.gives "operator.itemgetter") "operator.itemgetter",
  saying (.refuses "method name must be a string") "operator.methodcaller",
  saying (.gives "functools.partial") "functools.wraps",
  saying (.refuses "Expected first argument to be an integer, a callable, or None")
    "functools.lru_cache",
  saying (.fails (.noMember "str" "keys")) "functools._find_impl",
  saying (.refuses "set_trace() takes 0 positional arguments but 2 were given")
    "sys.breakpointhook breakpoint",
  saying (.gives "int") "sys.getsizeof _operator.countOf",
  saying (.refuses "call_tracing() argument 2 must be tuple, not str") "sys.call_tracing",
  saying (.refuses "callable finalizer expected, got str") "sys.set_asyncgen_hooks",
  saying (.refuses "module name must be str, not <class '_io.TextIOWrapper'>")
    "_frozen_importlib.__import__ _frozen_importlib._gcd_import",
  saying (.refuses "stat() takes exactly 1 positional argument (2 given)") "posix.stat",
  saying (.refuses "access: path should be string, bytes or os.PathLike, not TextIOWrapper")
    "posix.access",
  saying (.refuses "chown() missing required argument 'gid' (pos 3)") "posix.chown",
  saying (.refuses "fchown() missing required argument 'gid' (pos 3)") "posix.fchown",
  saying (.refuses "lchown() missing required argument 'gid' (pos 3)") "posix.lchown",
  saying (.refuses "link: src should be string, bytes or os.PathLike, not TextIOWrapper")
    "posix.link",
  saying (.refuses "lstat() takes exactly 1 positional argument (2 given)") "posix.lstat",
  saying (.refuses "setpriority() missing required argument 'priority' (pos 3)")
    "posix.setpriority",
  saying (.refuses "posix_spawn() takes exactly 3 positional arguments (2 given)")
    "posix.posix_spawn",
  saying (.refuses "posix_spawnp() takes exactly 3 positional arguments (2 given)")
    "posix.posix_spawnp",
  saying (.refuses "readlink() takes exactly 1 positional argument (2 given)") "posix.readlink",
  saying (.refuses "splice() missing required argument 'count' (pos 3)") "posix.splice",
  saying (.refuses "rmdir() takes exactly 1 positional argument (2 given)") "posix.rmdir",
  saying (.refuses "symlink: src should be string, bytes or os.PathLike, not TextIOWrapper")
    "posix.symlink",
  saying (.refuses "unlink() takes exactly 1 positional argument (2 given)") "posix.unlink",
  saying (.refuses "remove() takes exactly 1 positional argument (2 given)") "posix.remove",
  saying (.refuses "execv: path should be string, bytes or os.PathLike, not TextIOWrapper")
    "posix.execv os.execl",
  saying (.refuses "execve() missing required argument 'env' (pos 3)") "posix.execve",
  saying (.refuses "sched_setscheduler() takes exactly 3 arguments (2 given)")
    "posix.sched_setscheduler",
  saying (.refuses "getgrouplist() argument 1 must be str, not _io.TextIOWrapper")
    "posix.getgrouplist",
  saying (.refuses "uid should be integer, not TextIOWrapper") "posix.setreuid",
  saying (.refuses "gid should be integer, not TextIOWrapper") "posix.setregid",
  saying (.refuses "waitid() takes exactly 3 arguments (2 given)") "posix.waitid",
  saying (.refuses "open: path should be string, bytes or os.PathLike, not TextIOWrapper")
    "posix.open",
  saying (.refuses "sendfile() missing required argument 'offset' (pos 3)") "posix.sendfile",
  saying (.refuses "mkfifo: path should be string, bytes or os.PathLike, not TextIOWrapper")
    "posix.mkfifo",
  saying (.refuses "mknod: path should be string, bytes or os.PathLike, not TextIOWrapper")
    "posix.mknod",
  saying (.refuses (
      "truncate: path should be string, bytes, os.PathLike or integer, not " ++
      "TextIOWrapper"))
    "posix.truncate",
  saying (.fails (.raised Kind.value [.str "unrecognized configuration name"])) "posix.fpathconf",
  saying (.refuses (
      "pathconf: path should be string, bytes, os.PathLike or integer, not " ++
      "TextIOWrapper"))
    "posix.pathconf",
  saying (.refuses (
      "getxattr: path should be string, bytes, os.PathLike or integer, not " ++
      "TextIOWrapper"))
    "posix.getxattr",
  saying (.refuses "setxattr() missing required argument 'value' (pos 3)") "posix.setxattr",
  saying (.refuses (
      "removexattr: path should be string, bytes, os.PathLike or integer, not " ++
      "TextIOWrapper"))
    "posix.removexattr",
  saying (.refuses "listxattr() takes at most 1 positional argument (2 given)") "posix.listxattr",
  saying (.refuses "an integer is required") "posix.eventfd posix.eventfd_write",
  saying (.refuses (
      "execve: path should be string, bytes, os.PathLike or integer, not " ++
      "TextIOWrapper"))
    "os.execle",
  saying (.refuses "bytes expected, not TextIOWrapper") "os.getenvb",
  saying (.fails (.raised Kind.value [.str "argv first element cannot be empty"]))
    "os.spawnl os.spawnlp",
  saying (.fails (.raised Kind.position [.str "tuple index out of range"]))
    "os.spawnle os.spawnlpe",
  saying (.refuses "invalid cmd type (<class '_io.TextIOWrapper'>, expected string)") "os.popen",
  saying (.refuses "invalid fd type (<class '_io.TextIOWrapper'>, expected integer)") "os.fdopen",
  saying (.tells (Kind.ofLabel "LookupError") fun _ directory =>
      "unknown encoding: " ++ directory.plain)
    "_codecs.encode _codecs.decode codecs.EncodedFile codecs.iterencode codecs.iterdecode",
  saying (.refuses "escape_encode() argument 1 must be bytes, not _io.TextIOWrapper")
    "_codecs.escape_encode",
  saying (.refuses "utf_8_encode() argument 1 must be str, not _io.TextIOWrapper")
    "_codecs.utf_8_encode",
  saying (.refuses "utf_7_encode() argument 1 must be str, not _io.TextIOWrapper")
    "_codecs.utf_7_encode",
  saying (.refuses "utf_16_encode() argument 1 must be str, not _io.TextIOWrapper")
    "_codecs.utf_16_encode",
  saying (.refuses "utf_16_le_encode() argument 1 must be str, not _io.TextIOWrapper")
    "_codecs.utf_16_le_encode",
  saying (.refuses "utf_16_be_encode() argument 1 must be str, not _io.TextIOWrapper")
    "_codecs.utf_16_be_encode",
  saying (.refuses "utf_32_encode() argument 1 must be str, not _io.TextIOWrapper")
    "_codecs.utf_32_encode",
  saying (.refuses "utf_32_le_encode() argument 1 must be str, not _io.TextIOWrapper")
    "_codecs.utf_32_le_encode",
  saying (.refuses "utf_32_be_encode() argument 1 must be str, not _io.TextIOWrapper")
    "_codecs.utf_32_be_encode",
  saying (.refuses "unicode_escape_encode() argument 1 must be str, not _io.TextIOWrapper")
    "_codecs.unicode_escape_encode",
  saying (.refuses "raw_unicode_escape_encode() argument 1 must be str, not _io.TextIOWrapper")
    "_codecs.raw_unicode_escape_encode",
  saying (.refuses "latin_1_encode() argument 1 must be str, not _io.TextIOWrapper")
    "_codecs.latin_1_encode",
  saying (.refuses "ascii_encode() argument 1 must be str, not _io.TextIOWrapper")
    "_codecs.ascii_encode",
  saying (.refuses "charmap_encode() argument 1 must be str, not _io.TextIOWrapper")
    "_codecs.charmap_encode",
  saying (.refuses "register_error() argument 1 must be str, not _io.TextIOWrapper")
    "_codecs.register_error",
  saying (.refuses "can only concatenate str (not \"int\") to str") "json.decoder._decode_uXXXX",
  saying (.refuses "unsupported operand type(s) for -: 'str' and 'int'")
    "json.decoder.py_scanstring",
  saying (.fails (.noMember "str" "__dict__")) "_frozen_importlib._wrap enum._test_simple_enum",
  saying (.refuses (
      "stat: path should be string, bytes, os.PathLike or integer, not " ++
      "TextIOWrapper"))
    "_frozen_importlib_external._path_is_mode_type genericpath.samefile",
  saying (.refuses "a bytes-like object is required, not 'str'")
    "_frozen_importlib_external._write_atomic",
  saying (.tells Kind.value fun _ directory =>
      "invalid literal for int() with base 10: " ++ directory.display)
    "_frozen_importlib_external._code_to_timestamp_pyc",
  saying (.fails (.raised (Kind.ofLabel "AssertionError") []))
    "_frozen_importlib_external._code_to_hash_pyc",
  saying (.refuses "find_frozen() takes exactly 1 positional argument (2 given)")
    "_imp.find_frozen",
  saying (.refuses "get_frozen_object() argument 1 must be str, not _io.TextIOWrapper")
    "_imp.get_frozen_object",
  saying (.fails (.noMember "_io.TextIOWrapper" "origin")) "_imp.create_dynamic",
  saying (.refuses "_fix_co_filename() argument 1 must be code, not _io.TextIOWrapper")
    "_imp._fix_co_filename",
  saying (.tells (Kind.ofLabel "AssertionError") fun source _ => "invalid action: " ++ source)
    "warnings.filterwarnings warnings.simplefilter",
  saying (.refuses "category must be a Warning subclass, not 'str'") "_warnings.warn",
  saying (.refuses "warn_explicit() missing required argument 'filename' (pos 3)")
    "_warnings.warn_explicit",
  saying (.fails (.noMember "_io.TextIOWrapper" "_abc_impl")) "_abc._abc_instancecheck",
  saying (.refuses "first argument must be string or compiled pattern")
    "re.match re.fullmatch re.search re.split re.findall re.finditer re.compile re._compile",
  saying (.refuses "unsupported operand type(s) for |: 'str' and 'RegexFlag'") "re.template",
  saying (.refuses "__build_class__: func must be a function") "__build_class__",
  saying (.refuses "module name must be a string") "__import__",
  saying (.refuses "abs() takes exactly one argument (2 given)") "abs",
  saying (.refuses "all() takes exactly one argument (2 given)") "all",
  saying (.refuses "any() takes exactly one argument (2 given)") "any",
  saying (.refuses "ascii() takes exactly one argument (2 given)") "ascii",
  saying (.refuses "bin() takes exactly one argument (2 given)") "bin",
  saying (.refuses "callable() takes exactly one argument (2 given)") "callable",
  saying (.refuses "chr() takes exactly one argument (2 given)") "chr",
  saying (.refuses "compile() missing required argument 'mode' (pos 3)") "compile",
  saying (.tells Kind.member fun _ directory =>
      "'_io.TextIOWrapper' object has no attribute " ++ directory.display)
    "delattr getattr",
  saying (.refuses "unsupported operand type(s) for divmod(): '_io.TextIOWrapper' and 'str'")
    "divmod",
  saying (.refuses "globals must be a real dict; try eval(expr, \x7b\x7d, mapping)") "eval",
  saying (.refuses "exec() globals must be a dict, not str") "exec",
  saying (.refuses "unsupported format string passed to _io.TextIOWrapper.__format__") "format",
  saying (.refuses "globals() takes no arguments (2 given)") "globals",
  saying (.refuses "hash() takes exactly one argument (2 given)") "hash",
  saying (.refuses "hex() takes exactly one argument (2 given)") "hex",
  saying (.refuses "id() takes exactly one argument (2 given)") "id",
  saying (.refuses "isinstance() arg 2 must be a type, a tuple of types, or a union")
    "isinstance",
  saying (.refuses "iter(v, w): v must be callable") "iter",
  saying (.refuses "aiter() takes exactly one argument (2 given)") "aiter",
  saying (.refuses "len() takes exactly one argument (2 given)") "len",
  saying (.refuses "locals() takes no arguments (2 given)") "locals",
  saying (.refuses "'>' not supported between instances of 'str' and '_io.TextIOWrapper'") "max",
  saying (.refuses "'<' not supported between instances of 'str' and '_io.TextIOWrapper'") "min",
  saying (.refuses "'_io.TextIOWrapper' object is not an async iterator") "anext",
  saying (.refuses "oct() takes exactly one argument (2 given)") "oct",
  saying (.refuses "ord() takes exactly one argument (2 given)") "ord",
  saying (.refuses "unsupported operand type(s) for ** or pow(): '_io.TextIOWrapper' and 'str'")
    "pow _operator.pow",
  saying (.refuses "repr() takes exactly one argument (2 given)") "repr",
  saying (.refuses "type _io.TextIOWrapper doesn't define __round__ method") "round",
  saying (.refuses "sum() can't sum strings [use ''.join(seq) instead]") "sum",
  saying (.refuses "first arg must be callable") "_thread.start_new_thread _thread.start_new",
  saying (.refuses "signum() takes at most 1 argument (2 given)") "_thread.interrupt_main",
  saying (.refuses "_remove_dead_weakref() argument 1 must be dict, not _io.TextIOWrapper")
    "_weakref._remove_dead_weakref",
  saying (.fails (.raised Kind.value [.str "unmarshallable object"])) "marshal.dump",
  saying (.refuses "unsupported operand type(s) for &: 'str' and 'int'")
    "re._compiler._get_literal_prefix re._parser.fix_flags",
  saying (.refuses "__repr__ returned non-string (type _io.TextIOWrapper)")
    "re._constants._makecodes",
  saying (.fails (.noMember "str" "group")) "re._parser.expand_template",
  saying (.refuses "reduction functions must be callable") "copyreg.pickle",
  saying (.refuses "'<' not supported between instances of 'str' and 'int'") "copyreg._reduce_ex",
  saying (.refuses "unsupported operand type(s) for |: '_io.TextIOWrapper' and 'str'")
    "_operator.or_",
  saying (.refuses "compile() missing required argument 'code' (pos 3)") "_sre.compile",
  saying (.fails (.raised Kind.value [.str "sequence.index(x): x not in sequence"]))
    "_operator.indexOf",
  saying (.refuses "unsupported operand type(s) for +: '_io.TextIOWrapper' and 'str'")
    "_operator.add",
  saying (.refuses "unsupported operand type(s) for -: '_io.TextIOWrapper' and 'str'")
    "_operator.sub",
  saying (.refuses "can't multiply sequence by non-int of type '_io.TextIOWrapper'")
    "_operator.mul _operator.imul",
  saying (.refuses "unsupported operand type(s) for @: '_io.TextIOWrapper' and 'str'")
    "_operator.matmul",
  saying (.refuses "unsupported operand type(s) for //: '_io.TextIOWrapper' and 'str'")
    "_operator.floordiv",
  saying (.refuses "unsupported operand type(s) for /: '_io.TextIOWrapper' and 'str'")
    "_operator.truediv",
  saying (.refuses "unsupported operand type(s) for %: '_io.TextIOWrapper' and 'str'")
    "_operator.mod",
  saying (.refuses "unsupported operand type(s) for <<: '_io.TextIOWrapper' and 'str'")
    "_operator.lshift",
  saying (.refuses "unsupported operand type(s) for >>: '_io.TextIOWrapper' and 'str'")
    "_operator.rshift",
  saying (.refuses "unsupported operand type(s) for &: '_io.TextIOWrapper' and 'str'")
    "_operator.and_",
  saying (.refuses "unsupported operand type(s) for ^: '_io.TextIOWrapper' and 'str'")
    "_operator.xor",
  saying (.refuses "unsupported operand type(s) for +=: '_io.TextIOWrapper' and 'str'")
    "_operator.iadd",
  saying (.refuses "unsupported operand type(s) for -=: '_io.TextIOWrapper' and 'str'")
    "_operator.isub",
  saying (.refuses "unsupported operand type(s) for @=: '_io.TextIOWrapper' and 'str'")
    "_operator.imatmul",
  saying (.refuses "unsupported operand type(s) for //=: '_io.TextIOWrapper' and 'str'")
    "_operator.ifloordiv",
  saying (.refuses "unsupported operand type(s) for /=: '_io.TextIOWrapper' and 'str'")
    "_operator.itruediv",
  saying (.refuses "unsupported operand type(s) for %=: '_io.TextIOWrapper' and 'str'")
    "_operator.imod",
  saying (.refuses "unsupported operand type(s) for <<=: '_io.TextIOWrapper' and 'str'")
    "_operator.ilshift",
  saying (.refuses "unsupported operand type(s) for >>=: '_io.TextIOWrapper' and 'str'")
    "_operator.irshift",
  saying (.refuses "unsupported operand type(s) for &=: '_io.TextIOWrapper' and 'str'")
    "_operator.iand",
  saying (.refuses "unsupported operand type(s) for ^=: '_io.TextIOWrapper' and 'str'")
    "_operator.ixor",
  saying (.refuses "unsupported operand type(s) for |=: '_io.TextIOWrapper' and 'str'")
    "_operator.ior",
  saying (.refuses "'_io.TextIOWrapper' object can't be concatenated")
    "_operator.concat _operator.iconcat",
  saying (.refuses "'_io.TextIOWrapper' object does not support item deletion")
    "_operator.delitem",
  saying (.refuses "unsupported operand type(s) for **=: '_io.TextIOWrapper' and 'str'")
    "_operator.ipow",
  saying (.refuses "'<' not supported between instances of '_io.TextIOWrapper' and 'str'")
    "_operator.lt",
  saying (.refuses "'<=' not supported between instances of '_io.TextIOWrapper' and 'str'")
    "_operator.le",
  saying (.refuses "'>' not supported between instances of '_io.TextIOWrapper' and 'str'")
    "_operator.gt",
  saying (.refuses "'>=' not supported between instances of '_io.TextIOWrapper' and 'str'")
    "_operator.ge",
  saying (.refuses (
      "unsupported operand types(s) or combination of types: '_io.TextIOWrapper' " ++
      "and 'str'"))
    "_operator._compare_digest",
  saying (.refuses "GenericAlias expected 2 arguments, got 3") "types.GenericAlias+",
  saying (.refuses "str.__new__(X): X is not a type object (_io.TextIOWrapper)")
    "enum.StrEnum.__new__"]

end TargetHelp.Platform
