import TargetHelp.Text.Basic

/-!
# Functions of the platform

The functions of the modules that come with the platform, and the members of its types.
-/

set_option autoImplicit false
set_option relaxedAutoImplicit false

namespace TargetHelp.Platform

def functions : Text := "
  ~_frozen_importlib_external in:SourceFileLoader def: path_stats(self,path)
    _cache_bytecode(self,source_path,bytecode_path,data)! set_data(self,path,data,*,_mode=)
    in:FileLoader __init__(self,fullname,path) __eq__(self,other)! __hash__(self)!
    load_module(self,name=,*args,**kwargs)^ get_filename(self,name=,*args,**kwargs)^
    get_data(self,path) get_resource_reader(self,name=,*args,**kwargs)!^ in:SourceLoader
    path_mtime(self,path) _cache_bytecode(self,source_path,cache_path,data)
    set_data(self,path,data) source_to_code(self,data,path,*,_optimize=) def:path_mtime
    path_stats(self,path) def:get_filename get_source(self,fullname) get_code(self,fullname)
    in:_LoaderBasics is_package(self,fullname) def: create_module(self,spec) def:get_code
    exec_module(self,module) def:load_module load_module(self,fullname) in:ExtensionFileLoader
    def: __init__(self,name,path)! __eq__(self,other)! __hash__(self)! create_module(self,spec)
    get_code(self,fullname) get_source(self,fullname) get_filename(self,name=,*args,**kwargs)^
    def:path exec_module(self,module) is_package(self,fullname) in:FileFinder def:
    __init__(self,path,*loader_details) invalidate_caches(self)
    _get_spec(self,loader_class,fullname,path,smsl,target)! _fill_cache(self) __repr__(self)!
    def:find_spec find_loader(self,fullname) def:path find_spec(self,fullname,target=) own:
    path_hook(cls,*loader_details) in:NamespaceLoader def: __init__(self,name,path,path_finder)!
    is_package(self,fullname)! get_source(self,fullname)! get_code(self,fullname)!
    create_module(self,spec) exec_module(self,module)! static: module_repr(module) def:_path
    load_module(self,fullname) get_resource_reader(self,module)! in:PathFinder static:
    invalidate_caches() _path_hooks(path) find_distributions(*args,**kwargs) own:
    _path_importer_cache(cls,path) _legacy_get_spec(cls,fullname,finder)! own:rpartition
    _get_spec(cls,fullname,path,target=) find_spec(cls,fullname,path=,target=)
    find_module(cls,fullname,path=) in:SourcelessFileLoader def:get_filename
    get_code(self,fullname)! def: get_source(self,fullname) in:WindowsRegistryFinder static:
    _open_registry(key)! own: _search_registry(cls,fullname)!
    find_spec(cls,fullname,path=,target=)! find_module(cls,fullname,path=) in:_NamespacePath def:
    __init__(self,name,path,path_finder)! _find_parent_path_names(self) _get_parent_path(self)!
    _recalculate(self)! __iter__(self)! __setitem__(self,index,path)! __len__(self)!
    __repr__(self)! def:_recalculate __getitem__(self,index)! __contains__(self,item)! def:_path
    append(self,item)! in: def: _pack_uint32(x) _unpack_uint32(data) _make_relax_case()!
    _unpack_uint16(data) _path_split(path) _path_stat(path) _path_is_mode_type(path,mode)
    _path_isfile(path) _path_isdir(path) _path_isabs(path) _write_atomic(path,data,mode=)
    cache_from_source(path,debug_override=,*,optimization=) source_from_cache(path)
    _get_sourcefile(bytecode_path) _get_cached(filename)! _calc_mode(path) _check_name(method)
    _classify_pyc(data,name,exc_details)
    _validate_timestamp_pyc(data,source_mtime,source_size,name,exc_details)
    _validate_hash_pyc(data,source_hash,name,exc_details)
    _compile_bytecode(data,name=,bytecode_path=,source_path=)
    _code_to_timestamp_pyc(code,mtime=,source_size=) _code_to_hash_pyc(code,source_hash,checked=)
    decode_source(source_bytes) spec_from_file_location(name,location=,*,loader=)
    _fix_up_module(ns,name,pathname,cpathname=)! _get_supported_file_loaders()
    _set_bootstrap_module(_bootstrap_module)! _install(_bootstrap_module) def:rstrip
    _path_join(*path_parts) def:find_loader _find_module_shim(self,fullname)
  ~_frozen_importlib in:ModuleSpec def: __init__(self,name,loader,*,origin=)! __repr__(self)!
    def:submodule_search_locations __eq__(self,other)! property:_cached cached!&=str
    property:submodule_search_locations parent=str property:_set_fileattr has_location!&=bool
    in:BuiltinImporter static: module_repr(module) create_module(spec) exec_module(module) own:
    find_spec(cls,fullname,path=,target=)! find_module(cls,fullname,path=)
    get_code(self,fullname)^ get_source(self,fullname)^ is_package(self,fullname)^
    in:FrozenImporter static: module_repr(m) create_module(spec) exec_module(module)! own:
    _fix_up_module(cls,module)! find_spec(cls,fullname,path=,target=)!
    find_module(cls,fullname,path=) load_module(cls,fullname) get_code(self,fullname)^
    get_source(self,fullname)^ is_package(self,fullname)^ own:startswith
    _resolve_filename(cls,fullname,alias=,ispkg=)! in:_DummyModuleLock def: __init__(self,name)!
    acquire(self)! release(self)! __repr__(self)! in:_ImportLockContext __enter__(self)
    __exit__(self,exc_type,exc_value,exc_traceback) in:_ModuleLock __init__(self,name)!
    has_deadlock(self)! acquire(self) release(self)! __repr__(self)! in:_ModuleLockManager
    __init__(self,name)! __enter__(self)! def:_lock __exit__(self,*args,**kwargs)! in: def:
    __import__(name,globals=,locals=,fromlist=,level=) _object_name(obj)! _wrap(new,old)
    _new_module(name)! _get_module_lock(name) _lock_unlock_module(name)
    _call_with_frames_removed(f,*args,**kwds) _verbose_message(message,*args,verbosity=)
    _requires_builtin(fxn) _requires_frozen(fxn) _module_repr(module)
    spec_from_loader(name,loader,*,origin=) module_from_spec(spec) _module_repr_from_spec(spec)
    _exec(spec,module) _load_backward_compatible(spec)! _load_unlocked(spec)! _load(spec)
    _resolve_name(name,package,level) _find_spec_legacy(finder,name,path)!
    _sanity_check(name,package,level) _gcd_import(name,package=,level=)
    _handle_fromlist(module,fromlist,import_,*,recursive=) _calc___package__(globals)
    _builtin_from_name(name)! _install_external_importers() def:load_module
    _load_module_shim(self,fullname) def:__name__ _spec_from_module(module,loader=,origin=)!
    def:loader _init_module_attrs(spec,module,*,override=)! def:startswith
    _find_spec(name,path,target=) def:rpartition _find_and_load_unlocked(name,import_)!
    _find_and_load(name,import_) def:modules _setup(sys_module,_imp_module)
    _install(sys_module,_imp_module)
  ~enum in:Enum static:_value2member_map_ __new__(cls,value)! def: __init__(self,*args,**kwds)!
    _generate_next_value_(name,start,count,last_values) __repr__(self)! __str__(self)!
    __dir__(self) __format__(self,format_spec)! __hash__(self)! __deepcopy__(self,memo)!
    __copy__(self)! own: _missing_(cls,value)! def:_value_ __reduce_ex__(self,proto)! in:EnumType
    own: __prepare__(metacls,cls,bases,**kwds)!
    _check_for_existing_members_(mcls,class_name,bases)! _get_mixins_(mcls,class_name,bases)
    _find_data_repr_(mcls,class_name,bases)! _find_data_type_(mcls,class_name,bases)!
    _find_new_(mcls,classdict,member_type,first_enum) static:
    __new__(metacls,cls,bases,classdict,*,boundary=,**kwds)!^ def: __bool__(cls)
    __call__(cls,value,names=,*,module=) __contains__(cls,member) __dir__(cls)! __iter__(cls)
    __len__(cls) __repr__(cls)! __reversed__(cls) __setattr__(cls,name,value)^
    _create_(cls,class_name,names,*,module=) _convert_(cls,name,module,filter,source=,*,boundary=)
    def:_member_map_ __delattr__(cls,attr)!^ __getattr__(cls,name) __getitem__(cls,name)
    property:_member_map_ __members__=mappingproxy in:Flag def:
    _generate_next_value_(name,start,count,last_values) __contains__(self,other) __iter__(self)
    __len__(self)! __repr__(self)! __str__(self)! __bool__(self)! __invert__(self)! own:
    _iter_member_by_value_(cls,value) _iter_member_by_def_(cls,value) _missing_(cls,value)
    def:_member_type_ _get_value(self,flag)! def:_get_value __or__(self,other)!
    __and__(self,other)! __xor__(self,other)! in:StrEnum def:
    _generate_next_value_(name,start,count,last_values) in:_EnumDict __init__(self)!^
    __setitem__(self,key,value)^ update(self,members,**more_members)! in:_auto_null
    __repr__(self)! in:_proto_member __init__(self,value)!
    __set_name__(self,enum_class,member_name) in:auto __init__(self,value=)! __repr__(self)!
    in:member __init__(self,value)! in:nonmember __init__(self,value)! in:property def:fget
    __get__(self,instance,ownerclass=)! def: __set__(self,instance,value)!
    __set_name__(self,ownerclass,name)! def:fdel __delete__(self,instance)! in:verify def:
    __init__(self,*checks)! def:checks __call__(self,enumeration)! in: def: _is_descriptor(obj)
    _is_dunder(name) _is_sunder(name) _is_internal_class(cls_name,obj)!
    _is_private(cls_name,name)! _is_single_bit(num) _make_class_unpicklable(obj)
    _iter_bits_lsb(num)! show_flag_values(value)! _dedent(text) pickle_by_global_name(self,proto)!
    _high_bit(value) unique(enumeration) _power_of_two(value)! global_enum_repr(self)
    global_flag_repr(self) global_str(self) global_enum(cls,update_str=)
    _simple_enum(etype=,*,boundary=) _test_simple_enum(checked_enum,simple_enum)
    _old_convert_(etype,name,module,filter,source=,*,boundary=) def:bit_length bin(num,max_bits=)
    def:_name_ pickle_by_enum_name(self,proto)!
  ~typing in:_SpecialGenericAlias def: __init__(self,origin,nparams,*,inst=)!^
    __getitem__(self,params)!@ __repr__(self)! __reduce__(self)! __or__(self,right)!
    __ror__(self,left)! def:__origin__ copy_with(self,params)! __subclasscheck__(self,cls)!^
    in:_BaseGenericAlias def: __init__(self,origin,*,inst=)! __getattr__(self,attr)!
    __setattr__(self,attr,val)!^ __subclasscheck__(self,cls)! __dir__(self)!^ def:_inst
    __call__(self,*args,**kwargs)! def:__origin__ __mro_entries__(self,bases)!
    def:__subclasscheck__ __instancecheck__(self,obj)! in:_Final field: __weakref__ own:
    __init_subclass__(cls,*args,**kwds)! in:_UnionGenericAlias def: copy_with(self,params)!
    __eq__(self,other)! __hash__(self)! __repr__(self)!^ __reduce__(self)!^ def:__subclasscheck__
    __instancecheck__(self,obj)! def:__args__ __subclasscheck__(self,cls)! in:_GenericAlias def:
    __init__(self,origin,args,*,inst=)!^ __eq__(self,other)! __hash__(self)! __or__(self,right)!
    __ror__(self,left)! _make_substitution(self,args,new_arg_by_param) __repr__(self)!
    __reduce__(self)! __iter__(self)! def:__origin__ __getitem__(self,args)!@
    copy_with(self,args)! __mro_entries__(self,bases)!^ def:__parameters__
    _determine_new_args(self,args)! in:_SpecialForm def: __init__(self,getitem)!
    __getattr__(self,item)! __mro_entries__(self,bases)! __repr__(self)! __reduce__(self)!
    __call__(self,*args,**kwds)! __or__(self,other)! __ror__(self,other)!
    __instancecheck__(self,obj)! __subclasscheck__(self,cls)! def:_getitem
    __getitem__(self,parameters)!@ field: _getitem _name in:Any static:
    __new__(cls,*args,**kwargs)!^ in:_AnyMeta def: __instancecheck__(self,obj)!^ __repr__(self)!^
    in:TextIO property: buffer! encoding! errors! line_buffering! newlines! def: __enter__(self)!
    in:IO property: mode! name! closed! def: close(self)! fileno(self)! flush(self)! isatty(self)!
    read(self,n=)! readable(self)! readline(self,limit=)! readlines(self,hint=)!
    seek(self,offset,whence=)! seekable(self)! tell(self)! truncate(self,size=)! writable(self)!
    write(self,s)! writelines(self,lines)! __enter__(self)! __exit__(self,type,value,traceback)!
    in:Generic own: __class_getitem__(cls,params)@ __init_subclass__(cls,*args,**kwargs)!^
    in:_CallableType def:__origin__ copy_with(self,params)! def: __getitem__(self,params)!
    __getitem_inner__(self,params)!@ in:_CallableGenericAlias __repr__(self)!^ __reduce__(self)!
  ~pathlib in:Path static:_from_parts __new__(cls,*args,**kwargs)! def:_parts
    _make_child_relpath(self,part)! def: __enter__(self)! __exit__(self,t,v,tb)! iterdir(self)
    _scandir(self)! glob(self,pattern) rglob(self,pattern) absolute(self) resolve(self,strict=)
    stat(self,*,follow_symlinks=) owner(self) group(self)
    open(self,mode=,buffering=,encoding=,errors=,newline=) read_bytes(self) write_bytes(self,data)
    readlink(self) touch(self,mode=,exist_ok=) mkdir(self,mode=,parents=,exist_ok=)
    chmod(self,mode,*,follow_symlinks=) unlink(self,missing_ok=) rmdir(self) lstat(self)
    rename(self,target) replace(self,target) symlink_to(self,target,target_is_directory=)
    hardlink_to(self,target) link_to(self,target) exists(self) is_dir(self) is_file(self)
    is_mount(self) is_symlink(self) is_block_device(self) is_char_device(self) is_fifo(self)
    is_socket(self) expanduser(self) own: cwd(cls) home(cls) def:stat samefile(self,other_path)
    def:open read_text(self,encoding=,errors=) write_text(self,data,encoding=,errors=,newline=)
    def:chmod lchmod(self,mode) in:PurePath static:_from_parts __new__(cls,*args) def:
    __reduce__(self)! __str__(self) __fspath__(self)! as_posix(self) __bytes__(self)
    __repr__(self)! as_uri(self) __eq__(self,other)! __hash__(self)! __lt__(self,other)!
    __le__(self,other)! __gt__(self,other)! __ge__(self,other)! is_absolute(self)
    is_reserved(self) own: _parse_args(cls,args)! _from_parts(cls,args)!
    _from_parsed_parts(cls,drv,root,parts)! _format_parsed_parts(cls,drv,root,parts)!
    def:_parse_args _make_child(self,args)! property:_flavour _cparts! property:_drv anchor parent
    parents property:_parts name parts property: suffix suffixes stem def:_flavour
    with_name(self,name) with_suffix(self,suffix) match(self,path_pattern) def:with_name
    with_stem(self,stem) def:_parts relative_to(self,*other) def:relative_to
    is_relative_to(self,*other) def:_make_child joinpath(self,*args) __truediv__(self,key)!
    def:_from_parts __rtruediv__(self,key)! field: _cached_cparts _drv _hash _parts _pparts _root
    _str
  ~dataclasses in:_DataclassParams def: __init__(self,init,repr,eq,order,unsafe_hash,frozen)!
    __repr__(self)! field: eq frozen init order repr unsafe_hash in: def: dataclass(cls=,*,init=)
    field(*,default=)
  ~collections.abc in:Iterable def: __iter__(self)! own: __subclasshook__(cls,C)! in:Iterator def:
    __next__(self) __iter__(self)! own: __subclasshook__(cls,C)! in:Callable def:
    __call__(self,*args,**kwds)! own: __subclasshook__(cls,C)! in:Mapping def:
    __getitem__(self,key)! get(self,key,default=) __contains__(self,key)! keys(self) items(self)
    values(self) __eq__(self,other)! in:Collection own: __subclasshook__(cls,C)! in:Sized def:
    __len__(self)! own: __subclasshook__(cls,C)! in:Container def: __contains__(self,x)! own:
    __subclasshook__(cls,C)! in:MutableMapping def: __setitem__(self,key,value)!
    __delitem__(self,key)! pop(self,key,default=) popitem(self) clear(self)
    update(self,other=,**kwds) setdefault(self,key,default=) in:_CallableGenericAlias static:
    __new__(cls,origin,args)!^ def: __repr__(self)!^ __reduce__(self)! def:__parameters__
    __getitem__(self,item)!^ in: def:__mro__ _check_methods(C,*methods)!
  ~abc in:ABCMeta static: __new__(mcls,name,bases,namespace,**kwargs)!^ def:
    register(cls,subclass) __subclasscheck__(cls,subclass) _abc_registry_clear(cls)
    _abc_caches_clear(cls) def:_abc_impl __instancecheck__(cls,instance) def:__module__
    _dump_registry(cls,file=) in:abstractclassmethod def: __init__(self,callable)!^
    in:abstractstaticmethod __init__(self,callable)!^ in: abstractmethod(funcobj)
    update_abstractmethods(cls)
  ~_abc in:_abc_data is:str __doc__ __module__ maker: __new__ in: builtin:0 get_cache_token
    builtin:1 _abc_init _get_dump _reset_registry _reset_caches builtin: _abc_register
    _abc_instancecheck _abc_subclasscheck
  ~_thread in:RLock is:str __module__ maker: __new__ slot: __repr__ method: acquire? release?
    _is_owned? _acquire_restore? _release_save? _recursion_count? __enter__? __exit__?
    _at_fork_reinit!? in:lock is:str __doc__ __module__ slot: __repr__ method: acquire_lock?
    acquire? release_lock? release? locked_lock? locked? __enter__? __exit__? _at_fork_reinit!?
    in:_ExceptHookArgs is:str __doc__ __module__ maker: __new__ slot: __repr__ method:
    __reduce__!? field: exc_type exc_value exc_traceback thread in:_local is:str __doc__
    __module__ maker: __new__ slot: __getattribute__ __setattr__ __delattr__ in: builtin:
    start_new_thread start_new exit_thread exit interrupt_main builtin:0 allocate_lock allocate
    get_ident get_native_id _count _set_sentinel builtin:_1 stack_size builtin:1 _excepthook
  ~functools in:CacheInfo static: __new__(_cls,hits,misses,maxsize,currsize) own:
    _make(cls,iterable)^ in:_HashedSeq def: __init__(self,tup,hash=)! __hash__(self)! field:
    hashvalue in:_lru_cache_wrapper is:str __doc__ __module__ maker: __new__ slot: __call__
    __get__ method:0 cache_info!? cache_clear!? __reduce__!? method: __copy__!? __deepcopy__!?
    computed:dict __dict__! in:cached_property def: __init__(self,func)!
    __set_name__(self,owner,name)! def:attrname __get__(self,instance,owner=)! in:partial is:str
    __doc__ __module__ maker: __new__ slot: __repr__ __call__ __getattribute__ __setattr__
    __delattr__ method: __reduce__!? __setstate__!? ofType:1 __class_getitem__? field: func args
    keywords __vectorcalloffset__! computed: __dict__! in:partialmethod def:
    __init__(self,func,*args,**keywords)! __repr__(self)! _make_unbound_method(self)! def:func
    __get__(self,obj,cls=)! property:func __isabstractmethod__! in:singledispatchmethod def:
    __init__(self,func)! def:dispatcher register(self,cls,method=) def:__isabstractmethod__
    __get__(self,obj,cls=)! property:func __isabstractmethod__! in: def:
    update_wrapper(wrapper,wrapped,assigned=,updated=) wraps(wrapped,assigned=,updated=)
    _gt_from_lt(self,other) _le_from_lt(self,other) _ge_from_lt(self,other)
    _ge_from_le(self,other) _lt_from_le(self,other) _gt_from_le(self,other)
    _lt_from_gt(self,other) _ge_from_gt(self,other) _le_from_gt(self,other)
    _le_from_ge(self,other) _gt_from_ge(self,other) _lt_from_ge(self,other) total_ordering(cls)
    _unwrap_partial(func)! _make_key(args,kwds,typed,kwd_mark=,fasttypes=,tuple=,type=,len=)
    lru_cache(maxsize=,typed=) cache(user_function) _c3_merge(sequences) _find_impl(cls,registry)
    singledispatch(func) def:__bases__ _c3_mro(cls,abcs=) def:__mro__ _compose_mro(cls,types)
  ~sys in:flags is:str __doc__ slot: __repr__ method:0 __reduce__!? field:int debug inspect
    interactive optimize dont_write_bytecode no_user_site no_site ignore_environment verbose
    bytes_warning quiet hash_randomization isolated utf8_mode warn_default_encoding
    int_max_str_digits field:bool dev_mode safe_path in:float_info is:str __doc__ maker: __new__
    slot: __repr__ method:0 __reduce__!? field:float max min epsilon field:int max_exp max_10_exp
    min_exp min_10_exp dig mant_dig radix rounds in:hash_info is:str __doc__ maker: __new__ slot:
    __repr__ method:0 __reduce__!? field:int width modulus inf nan imag hash_bits seed_bits cutoff
    field:str algorithm in:int_info is:str __doc__ maker: __new__ slot: __repr__ method:0
    __reduce__!? field:int bits_per_digit sizeof_digit default_max_str_digits
    str_digits_check_threshold in:thread_info is:str __doc__ maker: __new__ slot: __repr__
    method:0 __reduce__!? field:str name lock version in:version_info is:str __doc__ slot:
    __repr__ method:0 __reduce__!? field:int major minor micro serial field:str releaselevel in:
    builtin:_1 addaudithook set_coroutine_origin_tracking_depth set_int_max_str_digits builtin:
    audit breakpointhook getsizeof call_tracing set_asyncgen_hooks builtin:0 _clear_type_cache
    _current_frames _current_exceptions exception exc_info getdefaultencoding getdlopenflags
    getallocatedblocks getfilesystemencoding getfilesystemencodeerrors _getquickenedcount
    getrecursionlimit is_finalizing getswitchinterval getprofile gettrace _debugmallocstats
    get_coroutine_origin_tracking_depth get_asyncgen_hooks get_int_max_str_digits builtin:1
    displayhook getrefcount intern setswitchinterval setdlopenflags setprofile setrecursionlimit
    settrace unraisablehook builtin:=3 excepthook builtin:<1 exit _getframe
  ~types in:SimpleNamespace is:str __doc__ maker: __new__ slot: __repr__ __getattribute__
    __setattr__ __delattr__ __lt__ __le__ __eq__ __ne__ __gt__ __ge__ __init__ method:0
    __reduce__? field:dict __dict__! in:DynamicClassAttribute def:
    __init__(self,fget=,fset=,fdel=,doc=)! __set__(self,instance,value)! def:fget
    __get__(self,instance,ownerclass=)! setter(self,fset)! deleter(self,fdel)! def:fdel
    __delete__(self,instance)! def:overwrite_doc getter(self,fget)!
  ~json.decoder in:JSONDecodeError def: __init__(self,msg,doc,pos)! __reduce__(self)!
    in:JSONDecoder __init__(self,*,object_hook=) def:raw_decode decode(self,s,_w=) def:scan_once
    raw_decode(self,s,idx=) in: def: _decode_uXXXX(s,pos)! py_scanstring(s,end,strict=,_b=,_m=)
    JSONObject(s_and_end,strict,scan_once,object_hook,object_pairs_hook,memo=,_w=,_ws=)!
    JSONArray(s_and_end,scan_once,_w=,_ws=)!
  ~json.encoder in:JSONEncoder def: __init__(self,*,skipkeys=) default(self,o) def:ensure_ascii
    encode(self,o) def:check_circular iterencode(self,o,_one_shot=) in: def:
    py_encode_basestring(s) py_encode_basestring_ascii(s) _make_iterencode(markers, _default,
    _encoder, _indent, _floatstr, _key_separator, _item_separator, _sort_keys, _skipkeys,
    _one_shot, ValueError=, dict=, float=, id=, int=, isinstance=, list=, str=, tuple=, _intstr=)!
  ~posix in:DirEntry is:str __module__ slot: __repr__ method: is_dir is_file is_symlink stat inode
    __fspath__ ofType:1 __class_getitem__? field: name path in:sched_param is:str __doc__
    __module__ maker: __new__ slot: __repr__ method: __reduce__!? field: sched_priority
    in:times_result is:str __doc__ __module__ maker: __new__ slot: __repr__ method: __reduce__!?
    field: user system children_user children_system elapsed in:uname_result is:str __doc__
    __module__ maker: __new__ slot: __repr__ method: __reduce__!? field: sysname nodename release
    version machine in:waitid_result is:str __doc__ __module__ maker: __new__ slot: __repr__
    method: __reduce__!? field: si_pid! si_uid! si_signo! si_status! si_code! in: builtin: stat
    access chmod fchmod chown fchown lchown link lstat mkdir getpriority setpriority posix_spawn
    posix_spawnp readlink splice rename replace rmdir symlink unlink remove utime execv execve
    fork sched_setparam sched_setscheduler sched_setaffinity forkpty getgrouplist kill killpg
    setreuid setregid initgroups wait4 waitid waitpid setpgid tcsetpgrp open closerange dup2 read
    readv write writev sendfile mkfifo mknod makedev ftruncate truncate putenv fpathconf pathconf
    abort getxattr setxattr removexattr listxattr set_inheritable set_blocking eventfd
    eventfd_write _exit builtin:1 ttyname nice umask sched_getparam sched_getscheduler
    sched_rr_get_interval sched_getaffinity login_tty setuid seteuid setgid setegid setgroups
    getsid tcgetpgrp dup isatty pipe2 major minor unsetenv strerror WCOREDUMP fstatvfs confstr
    sysconf urandom get_inheritable get_blocking builtin:_1 chdir chroot listdir system
    sched_get_priority_max sched_get_priority_min getpgid wait3 close device_encoding fstat fchdir
    fsync fdatasync WIFCONTINUED WIFSTOPPED WIFSIGNALED WIFEXITED WEXITSTATUS WTERMSIG WSTOPSIG
    statvfs scandir fspath eventfd_read waitstatus_to_exitcode _path_normpath builtin:0 ctermid
    getcwd getcwdb uname times sched_yield openpty getegid geteuid getgid getgroups getpid getpgrp
    getppid getuid getlogin setpgrp wait setsid pipe sync getloadavg getresuid getresgid cpu_count
    builtin:names register_at_fork builtin:=3 lockf lseek pread pwrite posix_fallocate setresuid
    setresgid builtin:>3 preadv pwritev builtin:=4 posix_fadvise builtin:<1 get_terminal_size
  ~os in:PathLike def: __fspath__(self) own: __subclasshook__(cls,subclass)! in:_Environ def:
    __init__(self,data,encodekey,decodekey,encodevalue,decodevalue)! __setitem__(self,key,value)!
    __iter__(self)! __len__(self)! __repr__(self)! copy(self)! setdefault(self,key,value)!
    __or__(self,other)! __ror__(self,other)! def:_data __getitem__(self,key)! def:encodekey
    __delitem__(self,key)! def:update __ior__(self,other)! in:_wrap_close def:
    __init__(self,stream,proc)! close(self)! __enter__(self)! __exit__(self,*args)!
    __iter__(self)! def:_stream __getattr__(self,name)! in:stat_result is:str __doc__ __module__
    maker: __new__ slot: __repr__ method: __reduce__!? field: st_mode st_ino st_dev st_nlink
    st_uid st_gid st_size st_atime st_mtime st_ctime st_atime_ns st_mtime_ns st_ctime_ns
    st_blksize st_blocks st_rdev in:statvfs_result is:str __doc__ __module__ maker: __new__ slot:
    __repr__ method: __reduce__!? field: f_bsize! f_frsize! f_blocks! f_bfree! f_bavail! f_files!
    f_ffree! f_favail! f_flag! f_namemax! f_fsid! in:terminal_size is:str __doc__ __module__
    maker: __new__ slot: __repr__ method: __reduce__!? field: columns lines in: def:
    _exists(name)! _get_exports_list(module)! makedirs(name,mode=,exist_ok=) removedirs(name)
    renames(old,new) walk(top,topdown=,onerror=,followlinks=)
    _walk(top,topdown,onerror,followlinks)! fwalk(top=,topdown=,onerror=,*,follow_symlinks=)
    _fwalk(topfd,toppath,isbytes,topdown,onerror,follow_symlinks)! execl(file,*args)
    execle(file,*args) execlp(file,*args) execlpe(file,*args) execvp(file,args)
    execvpe(file,args,env) _execvpe(file,args,env=)! get_exec_path(env=) getenv(key,default=)
    getenvb(key,default=) _spawnvef(mode,file,args,env,func)! spawnv(mode,file,args)
    spawnve(mode,file,args,env) spawnvp(mode,file,args) spawnvpe(mode,file,args,env)
    spawnl(mode,file,*args) spawnle(mode,file,*args) spawnlp(mode,file,*args)
    spawnlpe(mode,file,*args) popen(cmd,mode=,buffering=)!
    fdopen(fd,mode=,buffering=,encoding=,*args,**kwargs)! _fspath(path) local:
    fsencode=_fscodec.<locals>.fsencode(filename)^ fsdecode=_fscodec.<locals>.fsdecode(filename)^
  ~builtins in:OSError is:str __doc__ maker: __new__ slot: __str__ __init__ method: __reduce__!?
    field: errno strerror filename filename2 computed: characters_written! in:RuntimeError is:str
    __doc__ maker: __new__ slot: __init__ in:ArithmeticError is:str __doc__ maker: __new__ slot:
    __init__ in:AssertionError is:str __doc__ maker: __new__ slot: __init__ in:AttributeError
    is:str __doc__ slot: __str__ __init__ field: name obj in:BaseExceptionGroup is:str __doc__
    maker: __new__ slot: __str__ __init__ ofType:1 __class_getitem__? method: derive!? split!?
    subgroup!? field: message exceptions in:BlockingIOError is:str __doc__ slot: __init__
    in:BrokenPipeError is:str __doc__ slot: __init__ in:ConnectionError is:str __doc__ slot:
    __init__ in:BufferError is:str __doc__ maker: __new__ slot: __init__ in:BytesWarning is:str
    __doc__ maker: __new__ slot: __init__ in:Warning is:str __doc__ maker: __new__ slot: __init__
    in:ChildProcessError is:str __doc__ slot: __init__ in:ConnectionAbortedError is:str __doc__
    slot: __init__ in:ConnectionRefusedError is:str __doc__ slot: __init__ in:ConnectionResetError
    is:str __doc__ slot: __init__ in:DeprecationWarning is:str __doc__ maker: __new__ slot:
    __init__ in:EOFError is:str __doc__ maker: __new__ slot: __init__ in:ellipsis maker: __new__
    slot: __repr__ __getattribute__ method:0 __reduce__!? in:EncodingWarning is:str __doc__ maker:
    __new__ slot: __init__ in:ExceptionGroup is:str __module__ computed: __weakref__
    in:FileExistsError is:str __doc__ slot: __init__ in:FileNotFoundError is:str __doc__ slot:
    __init__ in:FloatingPointError is:str __doc__ maker: __new__ slot: __init__ in:FutureWarning
    is:str __doc__ maker: __new__ slot: __init__ in:GeneratorExit is:str __doc__ maker: __new__
    slot: __init__ in:ImportError is:str __doc__ slot: __str__ __init__ method: __reduce__!?
    field: msg name path in:ImportWarning is:str __doc__ maker: __new__ slot: __init__
    in:IndentationError is:str __doc__ slot: __init__ in:SyntaxError is:str __doc__ slot: __str__
    __init__ field: msg filename lineno offset text end_lineno end_offset print_file_and_line
    in:IndexError is:str __doc__ maker: __new__ slot: __init__ in:LookupError is:str __doc__
    maker: __new__ slot: __init__ in:InterruptedError is:str __doc__ slot: __init__
    in:IsADirectoryError is:str __doc__ slot: __init__ in:KeyError is:str __doc__ slot: __str__
    __init__ in:KeyboardInterrupt is:str __doc__ maker: __new__ slot: __init__ in:MemoryError
    is:str __doc__ maker: __new__ slot: __init__ in:ModuleNotFoundError is:str __doc__ slot:
    __init__ in:NameError is:str __doc__ slot: __str__ __init__ field: name in:NotADirectoryError
    is:str __doc__ slot: __init__ in:NotImplementedType maker: __new__ slot: __repr__ __bool__
    method:0 __reduce__!? in:NotImplementedError is:str __doc__ maker: __new__ slot: __init__
    in:OverflowError is:str __doc__ maker: __new__ slot: __init__ in:PendingDeprecationWarning
    is:str __doc__ maker: __new__ slot: __init__ in:PermissionError is:str __doc__ slot: __init__
    in:ProcessLookupError is:str __doc__ slot: __init__ in:RecursionError is:str __doc__ maker:
    __new__ slot: __init__ in:ReferenceError is:str __doc__ maker: __new__ slot: __init__
    in:ResourceWarning is:str __doc__ maker: __new__ slot: __init__ in:RuntimeWarning is:str
    __doc__ maker: __new__ slot: __init__ in:StopAsyncIteration is:str __doc__ maker: __new__
    slot: __init__ in:StopIteration is:str __doc__ slot: __init__ field: value in:SyntaxWarning
    is:str __doc__ maker: __new__ slot: __init__ in:SystemError is:str __doc__ maker: __new__
    slot: __init__ in:SystemExit is:str __doc__ slot: __init__ field: code in:TabError is:str
    __doc__ slot: __init__ in:TimeoutError is:str __doc__ slot: __init__ in:TypeError is:str
    __doc__ maker: __new__ slot: __init__ in:UnboundLocalError is:str __doc__ slot: __init__
    in:UnicodeDecodeError is:str __doc__ maker: __new__ slot: __str__ __init__ field: encoding
    object start end reason in:UnicodeError is:str __doc__ maker: __new__ slot: __init__
    in:UnicodeEncodeError is:str __doc__ maker: __new__ slot: __str__ __init__ field: encoding
    object start end reason in:UnicodeTranslateError is:str __doc__ maker: __new__ slot: __str__
    __init__ field: encoding object start end reason in:UnicodeWarning is:str __doc__ maker:
    __new__ slot: __init__ in:UserWarning is:str __doc__ maker: __new__ slot: __init__
    in:ZeroDivisionError is:str __doc__ maker: __new__ slot: __init__ in:bytearray is:str __doc__
    maker: __new__ slot: __repr__ __str__ __getattribute__ __lt__ __le__ __eq__ __ne__ __gt__
    __ge__ __iter__ __init__ __mod__ __rmod__ __len__ __getitem__ __setitem__ __delitem__ __add__
    __mul__ __rmul__ __contains__ __iadd__ __imul__ method: __alloc__? __reduce__ __reduce_ex__
    __sizeof__ append capitalize? center clear copy count? decode endswith? expandtabs extend
    find? hex index? insert isalnum? isalpha? isascii? isdigit? islower? isspace? istitle?
    isupper? join ljust lower? lstrip partition pop remove replace removeprefix removesuffix
    reverse rfind? rindex? rjust rpartition rsplit rstrip split splitlines startswith? strip
    swapcase? title? translate upper? zfill ofType:1 fromhex loose: maketrans in:complex is:str
    __doc__ maker: __new__ slot: __repr__ __hash__ __getattribute__ __lt__ __le__ __eq__ __ne__
    __gt__ __ge__ __add__ __radd__ __sub__ __rsub__ __mul__ __rmul__ __pow__ __rpow__ __neg__
    __pos__ __abs__ __bool__ __truediv__ __rtruediv__ method: conjugate __complex__
    __getnewargs__! __format__ field: real imag in:enumerate is:str __doc__ maker: __new__ slot:
    __getattribute__ __iter__ __next__ method: __reduce__? ofType:1 __class_getitem__? in:filter
    is:str __doc__ maker: __new__ slot: __getattribute__ __iter__ __next__ method: __reduce__?
    in:map is:str __doc__ maker: __new__ slot: __getattribute__ __iter__ __next__ method:
    __reduce__? in:memoryview is:str __doc__ maker: __new__ slot: __repr__ __hash__
    __getattribute__ __lt__ __le__ __eq__ __ne__ __gt__ __ge__ __iter__ __len__ __getitem__
    __setitem__ __delitem__ method: release tobytes hex tolist cast toreadonly __enter__!?
    __exit__!? computed: obj nbytes readonly itemsize format ndim shape strides suboffsets
    c_contiguous f_contiguous contiguous in:range is:str __doc__ maker: __new__ slot: __repr__
    __hash__ __getattribute__ __lt__ __le__ __eq__ __ne__ __gt__ __ge__ __iter__ __bool__ __len__
    __getitem__ __contains__ method: __reversed__? __reduce__!? count? index? field: start! stop!
    step! in:reversed is:str __doc__ maker: __new__ slot: __getattribute__ __iter__ __next__
    method: __length_hint__? __reduce__? __setstate__? in:slice is:str __doc__ maker: __new__
    slot: __repr__ __getattribute__ __lt__ __le__ __eq__ __ne__ __gt__ __ge__ method: indices?
    __reduce__? field: start! stop! step! in:super is:str __doc__ maker: __new__ slot: __repr__
    __getattribute__ __get__ __init__ field: __thisclass__ __self__ __self_class__ in:zip is:str
    __doc__ maker: __new__ slot: __getattribute__ __iter__ __next__ method: __reduce__?
    __setstate__? in: builtin: __build_class__ __import__ abs all any ascii bin breakpoint
    callable chr compile delattr divmod eval exec format getattr globals hasattr hash hex id
    isinstance issubclass iter aiter len locals max min next anext oct ord pow print repr round
    sum builtin:<1 dir input vars builtin:=3 setattr builtin:=1 sorted
  ~argparse in:Action def: __init__(self, option_strings, dest, nargs=, const=, default=, type=,
    choices=, required=, help=, metavar=)! _get_kwargs(self)! format_usage(self)!
    __call__(self,parser,namespace,values,option_string=)! in:_AttributeHolder __repr__(self)!
    _get_kwargs(self)! _get_args(self)! in:ArgumentDefaultsHelpFormatter
    _get_help_string(self,action) in:HelpFormatter def:_Section
    __init__(self,prog,indent_increment=,max_help_position=,width=)! def: _indent(self)!
    _dedent(self)! _add_item(self,func,args)! end_section(self)!
    add_usage(self,usage,actions,groups,prefix=)! add_argument(self,action)! format_help(self)!
    _join_parts(self,part_strings)! _format_usage(self,usage,actions,groups,prefix)!
    _format_actions_usage(self,actions,groups)! _format_action_invocation(self,action)!
    _metavar_formatter(self,action,default_metavar)! _format_args(self,action,default_metavar)!
    _expand_help(self,action)! _iter_indented_subactions(self,action)!
    _split_lines(self,text,width)! _fill_text(self,text,width,indent)!
    _get_help_string(self,action)! _get_default_metavar_for_optional(self,action)!
    _get_default_metavar_for_positional(self,action)! def:_indent start_section(self,heading)!
    def:_add_item add_text(self,text)! def:add_argument add_arguments(self,actions)! def:_width
    _format_text(self,text)! def:_action_max_length _format_action(self,action)! in:ArgumentError
    def: __init__(self,argument,message)! __str__(self)! in:ArgumentParser __init__(self, prog=,
    usage=, description=, epilog=, parents=, formatter_class=, prefix_chars=,
    fromfile_prefix_chars=, argument_default=, conflict_handler=, add_help=, allow_abbrev=,
    exit_on_error=)!^ _get_kwargs(self)! add_subparsers(self,**kwargs)! _add_action(self,action)!
    _get_optional_actions(self)! _get_positional_actions(self)!
    _parse_known_args(self,arg_strings,namespace)! convert_arg_line_to_args(self,arg_line)!
    _match_argument(self,action,arg_strings_pattern)!
    _match_arguments_partial(self,actions,arg_strings_pattern)! _get_nargs_pattern(self,action)!
    _get_values(self,action,arg_strings)! _get_value(self,action,arg_string)!
    _check_value(self,action,value)! format_usage(self)! format_help(self)! _get_formatter(self)!
    _print_message(self,message,file=)! exit(self,status=,message=)! def:parse_known_args
    parse_args(self,args=,namespace=)! def:_actions parse_known_args(self,args=,namespace=)!
    def:fromfile_prefix_chars _read_args_from_files(self,arg_strings)! def:prefix_chars
    _parse_optional(self,arg_string)! _get_option_tuples(self,option_string)!
    def:parse_known_intermixed_args parse_intermixed_args(self,args=,namespace=)!
    def:_get_positional_actions parse_known_intermixed_args(self,args=,namespace=)!
    def:_print_message print_usage(self,file=)! print_help(self,file=)! def:print_usage
    error(self,message) in:_ActionsContainer def:
    __init__(self,description,prefix_chars,argument_default,conflict_handler)!^
    register(self,registry_name,value,object)! _registry_get(self,registry_name,value,default=)!
    set_defaults(self,**kwargs)! add_mutually_exclusive_group(self,**kwargs)!
    _get_positional_kwargs(self,dest,**kwargs)! _pop_action_class(self,kwargs,default=)!
    _get_handler(self)! _check_conflict(self,action)!
    _handle_conflict_error(self,action,conflicting_actions)!
    _handle_conflict_resolve(self,action,conflicting_actions)! def:_actions
    get_default(self,dest)! _remove_action(self,action)! def:prefix_chars
    add_argument(self,*args,**kwargs) _get_optional_kwargs(self,*args,**kwargs)!
    def:conflict_handler add_argument_group(self,*args,**kwargs)! def:_check_conflict
    _add_action(self,action)! def:_action_groups _add_container_actions(self,container)!
    in:BooleanOptionalAction def:
    __init__(self,option_strings,dest,default=,type=,choices=,required=,help=,metavar=)!^
    __call__(self,parser,namespace,values,option_string=)! format_usage(self)! in:FileType
    __init__(self,mode=,bufsize=,encoding=,errors=)! __repr__(self)! def:_mode
    __call__(self,string)! in:MetavarTypeHelpFormatter def:
    _get_default_metavar_for_optional(self,action)!
    _get_default_metavar_for_positional(self,action)! in:Namespace __init__(self,**kwargs)!
    __eq__(self,other)! __contains__(self,key)! in:RawDescriptionHelpFormatter
    _fill_text(self,text,width,indent)! in:RawTextHelpFormatter _split_lines(self,text,width)!
    in:_AppendAction __init__(self, option_strings, dest, nargs=, const=, default=, type=,
    choices=, required=, help=, metavar=)!^ __call__(self,parser,namespace,values,option_string=)!
    in:_AppendConstAction
    __init__(self,option_strings,dest,const=,default=,required=,help=,metavar=)!^
    __call__(self,parser,namespace,values,option_string=)! in:_ArgumentGroup
    __init__(self,container,title=,description=,**kwargs)!^ _add_action(self,action)!^
    _remove_action(self,action)!^ add_argument_group(self,*args,**kwargs)!^ in:_CountAction
    __init__(self,option_strings,dest,default=,required=,help=)!^
    __call__(self,parser,namespace,values,option_string=)! in:_ExtendAction
    __call__(self,parser,namespace,values,option_string=)! in:_HelpAction
    __init__(self,option_strings,dest=,default=,help=)!^
    __call__(self,parser,namespace,values,option_string=)! in:_MutuallyExclusiveGroup
    __init__(self,container,required=)!^ _add_action(self,action)!
    add_mutually_exclusive_group(self,*args,**kwargs)!^ def:_container
    _remove_action(self,action)! in:_StoreAction def: __init__(self, option_strings, dest, nargs=,
    const=, default=, type=, choices=, required=, help=, metavar=)!^
    __call__(self,parser,namespace,values,option_string=)! in:_StoreConstAction
    __init__(self,option_strings,dest,const=,default=,required=,help=,metavar=)!^
    __call__(self,parser,namespace,values,option_string=)! in:_StoreFalseAction
    __init__(self,option_strings,dest,default=,required=,help=)!^ in:_StoreTrueAction
    __init__(self,option_strings,dest,default=,required=,help=)!^ in:_SubParsersAction
    __init__(self,option_strings,prog,parser_class,dest=,required=,help=,metavar=)!^
    _get_subactions(self)! __call__(self,parser,namespace,values,option_string=)! def:_prog_prefix
    add_parser(self,name,**kwargs)! in:_VersionAction def:
    __init__(self,option_strings,version=,dest=,default=,help=)!^
    __call__(self,parser,namespace,values,option_string=)! in:HelpFormatter._Section
    __init__(self,formatter,parent,heading=)! format_help(self)!
    in:_SubParsersAction._ChoicesPseudoAction __init__(self,name,aliases,help)!^ in:
    _copy_items(items)! _get_action_name(argument)!
  ~_collections in:_tuplegetter is:str __doc__ maker: __new__ slot: __repr__ __get__ __set__
    __delete__ method:0 __reduce__!?
  ~_io in:FileIO is:str __doc__ maker: __new__ slot: __repr__ __getattribute__ __init__ method:<1
    read truncate method:0 readall tell close seekable readable writable fileno isatty method:1
    readinto write _dealloc_warn!? method: seek field:int _blksize! field:bool _finalizing!
    computed:bool closed closefd computed:str mode in:_RawIOBase is:str __doc__ method: read!
    readall readinto!? write!? in:BufferedReader is:str __doc__ maker: __new__ slot: __repr__
    __next__ __init__ method:0 detach!? flush!? close!? seekable!? readable!? fileno!? isatty!?
    tell!? __sizeof__!? method:1 _dealloc_warn!? readinto! readinto1! method:<1 read! peek! read1!
    readline! truncate! method: seek! field:_io.FileIO raw! field:bool _finalizing! computed:bool
    closed! computed:str name! mode! in:_BufferedIOBase is:str __doc__ method: detach read? read1?
    readinto! readinto1! write? in:BufferedRWPair is:str __doc__ maker: __new__ slot: __init__
    method: read!? peek!? read1!? readinto!? readinto1!? write!? flush!? readable!? writable!?
    close!? isatty!? computed: closed! in:BufferedRandom is:str __doc__ maker: __new__ slot:
    __repr__ __next__ __init__ method: close!? detach!? seekable!? readable!? writable!? fileno!?
    isatty!? _dealloc_warn!? flush!? seek! tell!? truncate! read! read1! readinto! readinto1!
    readline! peek! write! __sizeof__!? field: raw! _finalizing! computed: closed! name! mode!
    in:BufferedWriter is:str __doc__ maker: __new__ slot: __repr__ __init__ method: close!?
    detach!? seekable!? writable!? fileno!? isatty!? _dealloc_warn!? write! truncate! flush!?
    seek! tell!? __sizeof__!? field: raw! _finalizing! computed: closed! name! mode! in:BytesIO
    is:str __doc__ maker: __new__ slot: __iter__ __next__ __init__ method: readable seekable
    writable close flush isatty tell write writelines read1 readinto readline readlines read
    getbuffer getvalue seek truncate __getstate__!? __setstate__!? __sizeof__!? computed: closed
    in:IncrementalNewlineDecoder is:str __doc__ maker: __new__ slot: __init__ method: decode!
    getstate! setstate! reset! computed: newlines! in:StringIO is:str __doc__ maker: __new__ slot:
    __next__ __init__ method: close getvalue read readline tell truncate seek write seekable
    readable writable __getstate__!? __setstate__!? computed: closed! newlines! line_buffering!
  ~_json in:Scanner is:str __doc__ __module__ maker: __new__ slot: __call__ field:bool strict
    field:NoneType object_hook object_pairs_hook! field: parse_float parse_int parse_constant
    in:Encoder is:str __doc__ __module__ maker: __new__ slot: __call__ field: markers default
    encoder indent key_separator item_separator sort_keys skipkeys in: builtin: scanstring
    builtin:1 encode_basestring_ascii encode_basestring
  ~codecs in:BufferedIncrementalDecoder def: __init__(self,errors=)!
    _buffer_decode(self,input,errors,final)! decode(self,input,final=)! reset(self)!
    getstate(self)! setstate(self,state)! in:IncrementalDecoder __init__(self,errors=)
    decode(self,input,final=) reset(self) getstate(self) setstate(self,state)
    in:BufferedIncrementalEncoder __init__(self,errors=)! _buffer_encode(self,input,errors,final)!
    encode(self,input,final=)! reset(self)! getstate(self)! setstate(self,state)!
    in:IncrementalEncoder __init__(self,errors=) encode(self,input,final=) reset(self)
    getstate(self) setstate(self,state) in:Codec encode(self,input,errors=)
    decode(self,input,errors=) in:CodecInfo static: __new__(cls, encode, decode, streamreader=,
    streamwriter=, incrementalencoder=, incrementaldecoder=, name=, *, _is_text_encoding=)! def:
    __repr__(self)! in:StreamReader __init__(self,stream,errors=) decode(self,input,errors=)!
    readlines(self,sizehint=,keepends=) reset(self) __next__(self) __iter__(self)!
    __enter__(self)! __exit__(self,type,value,tb)! __reduce_ex__(self,proto)! def:linebuffer
    read(self,size=,chars=,firstline=) readline(self,size=,keepends=) def:stream
    seek(self,offset,whence=) __getattr__(self,name,getattr=) in:StreamReaderWriter def:
    __init__(self,stream,Reader,Writer,errors=) __next__(self) __iter__(self)! reset(self)!
    __enter__(self)! __exit__(self,type,value,tb)! __reduce_ex__(self,proto)! def:reader
    read(self,size=)! readline(self,size=)! readlines(self,sizehint=)! def:writer
    write(self,data)! writelines(self,list)! def:stream seek(self,offset,whence=)!
    __getattr__(self,name,getattr=) in:StreamRecoder def:
    __init__(self,stream,encode,decode,Reader,Writer,errors=) __next__(self) __iter__(self)!
    writelines(self,list)! reset(self)! __enter__(self)! __exit__(self,type,value,tb)!
    __reduce_ex__(self,proto)! def:reader read(self,size=)! readline(self,size=)!
    readlines(self,sizehint=)! seek(self,offset,whence=)! def:decode write(self,data)! def:stream
    __getattr__(self,name,getattr=) in:StreamWriter def: __init__(self,stream,errors=)
    writelines(self,list) reset(self) __enter__(self)! __exit__(self,type,value,tb)!
    __reduce_ex__(self,proto)! def:encode write(self,object) def:stream seek(self,offset,whence=)!
    __getattr__(self,name,getattr=) in: def: open(filename,mode=,encoding=,errors=,buffering=)
    EncodedFile(file,data_encoding,file_encoding=,errors=) getencoder(encoding)
    getdecoder(encoding) getincrementalencoder(encoding) getincrementaldecoder(encoding)
    getreader(encoding) getwriter(encoding) iterencode(iterator,encoding,errors=,**kwargs)
    iterdecode(iterator,encoding,errors=,**kwargs) make_identity_dict(rng)
    make_encoding_map(decoding_map)
  ~re in:Pattern is:str __doc__ __module__ slot: __repr__ __hash__ __lt__ __le__ __eq__ __ne__
    __gt__ __ge__ method: match fullmatch search sub subn findall split finditer scanner! method:0
    __copy__! method:1 __deepcopy__! ofType:1 __class_getitem__? field:str pattern field:int flags
    groups computed:dict groupindex in:Match is:str __doc__ __module__ slot: __repr__ __getitem__
    method: group? start end span groups groupdict expand __copy__! __deepcopy__! ofType:1
    __class_getitem__? field: string re pos endpos computed: lastindex lastgroup regs! in:Scanner
    def: __init__(self,lexicon,flags=)! def:scanner scan(self,string)! in: def:
    match(pattern,string,flags=) fullmatch(pattern,string,flags=) search(pattern,string,flags=)
    sub(pattern,repl,string,count=,flags=) subn(pattern,repl,string,count=,flags=)
    split(pattern,string,maxsplit=,flags=) findall(pattern,string,flags=)
    finditer(pattern,string,flags=) compile(pattern,flags=) purge() template(pattern,flags=)
    escape(pattern) _compile(pattern,flags)! _expand(pattern,match,template)! _pickle(p)!
    def:groupindex _subx(pattern,template)!
  ~warnings in:WarningMessage def:
    __init__(self,message,category,filename,lineno,file=,line=,source=)! __str__(self)!
    in:catch_warnings __init__(self,*,record=) __repr__(self)! __enter__(self)! def:_entered
    __exit__(self,*exc_info)! in: def: showwarning(message,category,filename,lineno,file=,line=)
    formatwarning(message,category,filename,lineno,line=) _showwarnmsg_impl(msg)!
    _formatwarnmsg_impl(msg)! _showwarnmsg(msg) _formatwarnmsg(msg)
    filterwarnings(action,message=,category=,module=,lineno=,append=)
    simplefilter(action,category=,lineno=,append=) _add_filter(*item,append)! resetwarnings()
    _processoptions(args)! _setoption(arg)! _getaction(action)! _getcategory(category)!
    _is_internal_frame(frame) _next_external_frame(frame)
    _deprecated(name,message=,*,remove,_version=) _warn_unawaited_coroutine(coro)!
  ~operator in:attrgetter is:str __doc__ __module__ maker: __new__ slot: __repr__ __call__
    __getattribute__ method:0 __reduce__? field:int __vectorcalloffset__! in:itemgetter is:str
    __doc__ __module__ maker: __new__ slot: __repr__ __call__ __getattribute__ method: __reduce__?
    field: __vectorcalloffset__! in:methodcaller is:str __doc__ __module__ maker: __new__ slot:
    __repr__ __call__ __getattribute__ method: __reduce__?
  ~_sitebuiltins in:_Printer def: __init__(self,name,data,files=,dirs=)! __repr__(self)!
    __call__(self)! in:Quitter __init__(self,name,eof)! __repr__(self)! __call__(self,code=)!
    in:_Helper __repr__(self)! __call__(self,*args,**kwds)!
  ~weakref in:CallableProxyType slot: __repr__ __call__ __str__ __getattribute__ __setattr__
    __delattr__ __lt__ __le__ __eq__ __ne__ __gt__ __ge__ __iter__ __next__ __add__ __radd__
    __sub__ __rsub__ __mul__ __rmul__ __mod__ __rmod__ __divmod__ __rdivmod__ __pow__ __rpow__
    __neg__ __pos__ __abs__ __bool__ __invert__ __lshift__ __rlshift__ __rshift__ __rrshift__
    __and__ __rand__ __xor__ __rxor__ __or__ __ror__ __int__ __float__ __iadd__ __isub__ __imul__
    __imod__ __ipow__ __ilshift__ __irshift__ __iand__ __ixor__ __ior__ __floordiv__ __rfloordiv__
    __truediv__ __rtruediv__ __ifloordiv__ __itruediv__ __index__ __matmul__ __rmatmul__
    __imatmul__ __len__ __getitem__ __setitem__ __delitem__ __contains__ in:ProxyType __repr__
    __str__ __getattribute__ __setattr__ __delattr__ __lt__ __le__ __eq__ __ne__ __gt__ __ge__
    __iter__ __next__ __add__ __radd__ __sub__ __rsub__ __mul__ __rmul__ __mod__ __rmod__
    __divmod__ __rdivmod__ __pow__ __rpow__ __neg__ __pos__ __abs__ __bool__ __invert__ __lshift__
    __rlshift__ __rshift__ __rrshift__ __and__ __rand__ __xor__ __rxor__ __or__ __ror__ __int__
    __float__ __iadd__ __isub__ __imul__ __imod__ __ipow__ __ilshift__ __irshift__ __iand__
    __ixor__ __ior__ __floordiv__ __rfloordiv__ __truediv__ __rtruediv__ __ifloordiv__
    __itruediv__ __index__ __matmul__ __rmatmul__ __imatmul__ __len__ __getitem__ __setitem__
    __delitem__ __contains__ method: __bytes__!? __reversed__!? in:ReferenceType maker: __new__
    slot: __repr__ __hash__ __call__ __lt__ __le__ __eq__ __ne__ __gt__ __ge__ __init__ ofType:1
    __class_getitem__? field: __callback__!
  ~re._constants in:_NamedIntConstant static: __new__(cls,value,name)!^ def: __repr__(self)! in:
    _makecodes(*names)!
  ~re._parser in:State def: __init__(self)! closegroup(self,gid,p)!
    checklookbehindgroup(self,gid,source)! property:groupwidths groups! def:groups
    opengroup(self,name=)! checkgroup(self,gid)! in:SubPattern def: __init__(self,state,data=)!
    __repr__(self)! __len__(self)! __setitem__(self,index,code)! insert(self,index,code)!
    getwidth(self)! def:data dump(self,level=)! __delitem__(self,index)! __getitem__(self,index)!
    append(self,code)! in:Tokenizer def:_Tokenizer__next __init__(self,string)! seek(self,index)!
    def:next match(self,char)! def: get(self)! getwhile(self,n,charset)!
    getuntil(self,terminator,name)! tell(self)! checkgroupname(self,name,offset,nested)!
    property:index pos! def:istext error(self,msg,offset=)! in: _class_escape(source,escape)! def:
    _escape(source,escape,state)! _uniq(items)! _parse_sub(source,state,verbose,nested)!
    _parse(source,state,verbose,nested,first=)! _parse_flags(source,state,char)!
    fix_flags(src,flags)! parse(str,flags=,state=)! parse_template(source,state)!
    expand_template(template,match)!
  ~collections def: namedtuple(typename,field_names,*,rename=)
  ~reprlib def: recursive_repr(fillvalue=)
  ~_functools builtin:_1 cmp_to_key builtin: reduce
  ~json def: dump(obj,fp,*,skipkeys=,**kw) dumps(obj,*,skipkeys=,**kw) detect_encoding(b)!
    load(fp,*,cls=,**kw) loads(s,*,cls=,**kw)
  ~importlib def: invalidate_caches() reload(module) def:startswith find_loader(name,path=)
    import_module(name,package=)
  ~gettext def: gettext(message)! ngettext(msgid1,msgid2,n)!
  ~_codecs builtin:1 register unregister lookup charmap_build lookup_error builtin: encode decode
    escape_encode escape_decode utf_8_encode utf_8_decode utf_7_encode utf_7_decode utf_16_encode
    utf_16_le_encode utf_16_be_encode utf_16_decode utf_16_le_decode utf_16_be_decode
    utf_16_ex_decode utf_32_encode utf_32_le_encode utf_32_be_encode utf_32_decode
    utf_32_le_decode utf_32_be_decode utf_32_ex_decode unicode_escape_encode unicode_escape_decode
    raw_unicode_escape_encode raw_unicode_escape_decode latin_1_encode latin_1_decode ascii_encode
    ascii_decode charmap_encode charmap_decode readbuffer_encode register_error
  ~json.scanner def: py_make_scanner(context)!
  ~_imp builtin:0 extension_suffixes lock_held acquire_lock release_lock _frozen_module_names
    builtin: find_frozen get_frozen_object create_dynamic _fix_co_filename source_hash builtin:1
    is_frozen_package create_builtin init_frozen is_builtin is_frozen
    _override_frozen_modules_for_tests exec_dynamic exec_builtin
  ~importlib.machinery def: all_suffixes()
  ~_warnings builtin: warn warn_explicit builtin:0 _filters_mutated
  ~genericpath def: commonprefix(m) exists(path) getatime(filename) getctime(filename)
    getmtime(filename) getsize(filename) isdir(s) isfile(path) samefile(f1,f2)
    sameopenfile(fp1,fp2) _splitext(p,sep,altsep,extsep) _check_arg_types(funcname,*args)!
    def:st_ino samestat(s1,s2)
  ~posixpath def: _get_sep(path)! normcase(s) isabs(s) join(a,*p) split(p) splitext(p)
    splitdrive(p) basename(p) dirname(p) islink(path) lexists(path) ismount(path) expanduser(path)
    expandvars(path) normpath(path) abspath(path) realpath(filename,*,strict=)
    _joinrealpath(path,rest,strict,seen)! relpath(path,start=) commonpath(paths)
  ~_stat builtin:1 S_IMODE S_IFMT S_ISDIR S_ISCHR S_ISBLK S_ISREG S_ISFIFO S_ISLNK S_ISSOCK
    S_ISDOOR S_ISPORT S_ISWHT filemode
  ~io builtin: open text_encoding builtin:_1 open_code
  ~_weakref builtin:1 getweakrefcount getweakrefs builtin: _remove_dead_weakref proxy
  ~marshal builtin: dump dumps builtin:1 load loads
  ~re._compiler def: _combine_flags(flags,add_flags,del_flags,TYPE_FLAGS=)!
    _compile(code,pattern,flags)! _compile_charset(charset,flags,code)!
    _optimize_charset(charset,iscased=,fixup=,fixes=)! _bytes_to_codes(b)! _simple(p)!
    _generate_overlap_table(prefix) _get_iscased(flags)! _get_literal_prefix(pattern,flags)!
    _compile_info(code,pattern,flags)! isstring(obj)! _hex_code(code)! dis(code)! def:translate
    _mk_bitmap(bits,_CODEBITS=,_int=)! def:data _get_charset_prefix(pattern,flags)! def:state
    _code(p,flags)! compile(p,flags=)!
  ~copyreg def: pickle(ob_type,pickle_function,constructor_ob=)! constructor(object)!
    pickle_complex(c)! pickle_union(obj)! _reconstructor(cls,base,state)! _reduce_ex(self,proto)!
    __newobj__(cls,*args)! __newobj_ex__(cls,args,kwargs) _slotnames(cls)
    add_extension(module,name,code) remove_extension(module,name,code) clear_extension_cache()!
  ~_operator builtin: or_ contains indexOf countOf is_ is_not add sub mul matmul floordiv truediv
    mod lshift rshift and_ xor iadd isub imul imatmul ifloordiv itruediv imod ilshift irshift iand
    ixor ior concat iconcat getitem delitem pow ipow eq ne lt le gt ge _compare_digest length_hint
    call builtin:1 truth index neg pos abs inv invert not_ builtin:=3 setitem
  ~_sre builtin: compile builtin:0 getcodesize builtin:1 ascii_iscased unicode_iscased
    ascii_tolower unicode_tolower
  ~contextlib def: contextmanager(func)"

end TargetHelp.Platform
