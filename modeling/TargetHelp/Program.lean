import TargetHelp.Platform
import TargetHelp.Program.Functions

/-!
# The program as a catalogue

The modules of the program, from which a specification can take a parser, with those of the platform
that names lead to from there. What a function does that two arguments fit is said in `replies`; all
others refuse the arguments.
-/

set_option autoImplicit false
set_option relaxedAutoImplicit false

namespace TargetHelp.Program

/-! ### Replies -/

/-- The fault of making an object of a class out of what is none. -/
def notInstance : Reply := .refuses "super(type, obj): obj must be an instance or subtype of type"

/-- The fault of giving a source another name. -/
def notNamed : Reply :=
  .fails (.raised Kind.member
    [.str "attribute 'name' of '_io.TextIOWrapper' objects is not writable"])

/-- What calling the class of kinds of nodes says, which makes a class of the name of the source. -/
def extendKinds : Reply := fun source _ =>
  throw (.ofUse ("<enum " ++ source.display ++ "> cannot extend <enum 'NodeKind'>"))

/-- What the functions do that two arguments fit, in the world of a run. A mark stands behind those
that are bound to the manager in charge. -/
def replies (world : World) : Fields Reply := [
  ("parse_recursive", .reads Node.readStream), ("dump_nodes", dumpNodes),
  ("resolve_config", resolveConfig world.system), ("render_with", renderWith world),
  ("_build_parser", buildParser), ("get_comments", getComments),
  ("_write_view", .fails (.raised Kind.unsupported [.str "not writable"])),
  ("render_all_short", renderAll), ("render_all_long", renderAll),
  ("TargetFormatter.format_list", formatList), ("init_output", initOutput),
  ("OutputManager", makeManager), ("OutputManager.emit+", emit),
  ("OutputManager.hint+", .gives "NoneType"), ("OutputManager.__init__+", remakeManager),
  ("NodeKind", extendKinds), ("ParseError.__init__", notInstance),
  ("ParseFailure.__init__", notInstance), ("Target.__init__", notNamed),
  ("ChannelConfig.__init__", notNamed)]

/-! ### Modules -/

/-- The modules below that of the managers. -/
def basics : Text := "
  /mmhelp._version def: get_base_version() get_pip_version() is:int MAJOR MINOR PATCH is:str PHASE
    VERSION BASE_VERSION PIP_VERSION __version__ __app_name__
  /mmhelp.errors class:Exception ParseError ParseFailure class:ValueError ParserLoadError def:
    ParseError.__init__(self,message,line=)!^ ParseFailure.__init__(self,context,cause)!^
  /mmhelp.nodes from:typing Iterable List Union from:dataclasses dataclass field from:enum Enum
    class:enum.Enum NodeKind in:NodeKind choice: COMMENT=comment TARGET=target INCLUDE=include in:
    record:frozen Comment(target=,value=) Target(name) Include(path,optional=) from:
    Comment.kind=NodeKind.COMMENT Target.kind=NodeKind.TARGET Include.kind=NodeKind.INCLUDE text:
    Comment.target Comment.value is:bool Include.optional alias:typing._UnionGenericAlias
    Node@Union[mmhelp.nodes.Comment,mmhelp.nodes.Target,mmhelp.nodes.Include] def:
    comments_only(nodes)
  /mmhelp.lib.log_lib.levels is:int DEBUG CONFIG TIMING DEFAULT MINIMAL WARNING ERROR NOTHING
  /mmhelp.lib.log_lib.hints from:dataclasses dataclass field from:typing Dict List Optional Set
    record: Hint(id,message,context=,min_level=,category=)^ is:int Hint.min_level is:str
    Hint.category is:dict _HINTS def: register_hint(hint) get_hint(hint_id)
    get_hints_by_category(category) def:id register_hints(*hints)
  /mmhelp.lib.log_lib.channels from:dataclasses dataclass from:typing Dict Set record:
    ChannelConfig(name,level=) is:int ChannelConfig.level is:set KNOWN_CHANNELS OPT_IN_CHANNELS
    is:dict CHANNEL_DESCRIPTIONS def: parse_channel_spec(spec) format_channel_list()
  /mmhelp.lib.log_lib.trace module: functools def: trace(func) _short_repr(value)"

/-- The module of the managers, which holds the one in charge. -/
def managers : Text := "
  /mmhelp.lib.log_lib.manager module: sys _channels=mmhelp.lib.log_lib.channels from:typing Any
    Dict List Optional Set TextIO from:mmhelp.lib.log_lib.hints get_hint
    from:mmhelp.lib.log_lib.levels ERROR MINIMAL NOTHING WARNING class: OutputManager
    is:mmhelp.lib.log_lib.manager.OutputManager _manager def: get_output()
    init_output(verbosity=,channels=,file=) of:OutputManager is:int verbosity is:dict
    channel_overrides is:_io.TextIOWrapper file is:set _shown_hints in:OutputManager def:
    __init__(self,verbosity=,channel_overrides=,file=)!
    emit(self,level,message,*,channel=,**kwargs) def:channel_overrides threshold(self,channel)
    def:_shown_hints hint(self,hint_id,context=,**kwargs) def:emit warning(self,message)
    error(self,message) def:threshold channel_active(self,channel) property:_shown_hints
    shown_hints=set"

/-- The modules above that of the managers. -/
def commands : Text := "
  /mmhelp.lib.log_lib is:list __all__ from:mmhelp.lib.log_lib.manager OutputManager init_output
    get_output from:mmhelp.lib.log_lib.hints Hint register_hint register_hints get_hint
    get_hints_by_category from:mmhelp.lib.log_lib.channels ChannelConfig parse_channel_spec
    format_channel_list from:mmhelp.lib.log_lib.trace trace
  /mmhelp.nodestream module: json from:typing Iterator List TextIO from:mmhelp.errors ParseError
    from:mmhelp.lib.log_lib get_output from:mmhelp.nodes Comment Include Node NodeKind Target def:
    parse_recursive(source,include_path) dump_nodes(nodes,out) decode_node(obj) encode_node(node)
    _require_str(obj,key,kind,default=)
  /mmhelp.parser module: importlib from:typing Callable Iterable Optional TextIO from:mmhelp.errors
    ParserLoadError from:mmhelp.nodes Node alias:typing._CallableGenericAlias
    ParserFunc@Callable[[typing.TextIO, str], typing.Iterable[typing.Union[mmhelp.nodes.Comment,
    mmhelp.nodes.Target, mmhelp.nodes.Include]]]=collections.abc.Callable is:str
    DEFAULT_INCLUDE_PATH DEFAULT_PARSER_SPEC def: load_parser(spec) get_parser(spec=)
  /mmhelp.config module: json os from:pathlib Path from:mmhelp.lib.log_lib get_output is:str
    PROJECT_CONFIG_NAME is:list CONFIG_KEYS def: get_global_config_dir() get_global_config_path()
    find_project_config(start_dir=) load_json(path) load_global_config(path=)
    load_project_config(start_dir=) resolve_config(args,keys=,start_dir=)
  /mmhelp.output module: sys from:mmhelp.lib.log_lib OutputManager init_output get_output Hint
    register_hint register_hints get_hint trace def: print_warn(msg) print_error(msg)
  /mmhelp.channels module: _ch=mmhelp.lib.log_lib.channels is:set MMHELP_CHANNELS
    MMHELP_OPT_IN_CHANNELS is:dict MMHELP_CHANNEL_DESCRIPTIONS def: configure_channels()
    format_mmhelp_channel_list()
  /mmhelp.hints from:mmhelp.lib.log_lib Hint register_hints
  /mmhelp.lib.help_lib.formatters from:typing List from:mmhelp.nodes Comment is:str INDENT class:
    ShortFormatter LongFormatter TargetFormatter def: first_line(s) indent(s) target_width(comments)
    static:target ShortFormatter.format(item,width) static: ShortFormatter.format_list(items)
    LongFormatter.format(item) LongFormatter.format_list(items)! TargetFormatter.format(item)!
    TargetFormatter.format_list(items,target)
  /mmhelp.lib.help_lib.core from:typing List Optional TextIO from:mmhelp.errors ParseFailure
    from:mmhelp.lib.log_lib get_output trace from:mmhelp.nodes Comment comments_only
    from:mmhelp.parser DEFAULT_INCLUDE_PATH ParserFunc get_parser
    from:mmhelp.lib.help_lib.formatters LongFormatter ShortFormatter TargetFormatter def:
    filter_comments(comments) sort_comments(comments) get_comments(source,parser=,include_path=)@
    _write_view(out,lines) render_all_short(source,out,parser=,include_path=)
    render_all_long(source,out,parser=,include_path=)
    render_target_long(source,out,target,parser=,include_path=)
  /mmhelp.lib.help_lib is:list __all__ from:mmhelp.lib.help_lib.core filter_comments get_comments
    render_all_long render_all_short render_target_long sort_comments
    from:mmhelp.lib.help_lib.formatters LongFormatter ShortFormatter TargetFormatter first_line
    indent target_width
  /mmhelp.lib
  /mmhelp.cli module: argparse sys from:mmhelp._version BASE_VERSION is:dict GLOBAL_FLAGS def:
    main(argv=) _extract_global_flags(argv) _build_common_parser() _discover_commands()
    _build_parser(commands,common_parser)
  /mmhelp.commands.common module: sys from:contextlib contextmanager from:mmhelp.config
    resolve_config from:mmhelp.errors ParseFailure ParserLoadError from:mmhelp.lib.log_lib
    get_output from:mmhelp.output print_error print_warn from:mmhelp.parser DEFAULT_INCLUDE_PATH
    get_parser is:str STDIN_NAME def: open_source(path)@ render_with(args,render)
  /mmhelp.commands.list_cmd module: argparse sys from:mmhelp.lib.help_lib render_all_short
    from:mmhelp.lib.log_lib get_output from:mmhelp.commands.common render_with def:add_parser
    register(subparsers,parents) def: run(args)
  /mmhelp.commands.describe module: argparse sys from:mmhelp.lib.help_lib render_all_long
    render_target_long from:mmhelp.lib.log_lib get_output from:mmhelp.commands.common render_with
    def:add_parser register(subparsers,parents) def: run(args) _render_target(target)
  /mmhelp.commands
  /mmhelp is:list __all__ from:mmhelp._version __version__ __app_name__"

/-- The listed modules over the built-in ones. -/
def catalogueOf (platform : Catalogue) (world : World) (listing : Text) : Catalogue :=
  Catalogue.builtIn.followedBy
    (Listing.extend platform (fun _ path => Fields.get? path (replies world)) listing)

/-- What the program offers in a world. -/
def catalogue (world : World) : Catalogue :=
  catalogueOf Platform.catalogue world (basics ++ managers ++ commands)

/-- A world with the parsers that the program offers there. -/
def offering (world : World) : World := { world with catalogue := catalogue world }

end TargetHelp.Program
