import FluentBuilder.Text.Dotted

/-!
# The standard library

Names that belong to the language and not to a source tree: the built-in names, and the modules of
the standard library with what the names in them denote. A `Library` answers what a name denotes;
`Library.standard` lists the names that are known. A name that is not listed denotes nothing.
-/

namespace FluentBuilder

/-- The words of some lines. -/
def wordsOf (lines : List String) : List String :=
  lines.flatMap fun line => (Dotted.pieces ' ' line.toList).map String.ofList

/-! ### Built-in names -/

/-- The built-in names. -/
def builtinNames : List String := wordsOf [
  "ArithmeticError AssertionError AttributeError BaseException BaseExceptionGroup",
  "BlockingIOError BrokenPipeError BufferError BytesWarning ChildProcessError",
  "ConnectionAbortedError ConnectionError ConnectionRefusedError ConnectionResetError",
  "DeprecationWarning EOFError Ellipsis EncodingWarning EnvironmentError Exception",
  "ExceptionGroup False FileExistsError FileNotFoundError FloatingPointError FutureWarning",
  "GeneratorExit IOError ImportError ImportWarning IndentationError IndexError",
  "InterruptedError IsADirectoryError KeyError KeyboardInterrupt LookupError MemoryError",
  "ModuleNotFoundError NameError None NotADirectoryError NotImplemented NotImplementedError",
  "OSError OverflowError PendingDeprecationWarning PermissionError ProcessLookupError",
  "RecursionError ReferenceError ResourceWarning RuntimeError RuntimeWarning",
  "StopAsyncIteration StopIteration SyntaxError SyntaxWarning SystemError SystemExit",
  "TabError TimeoutError True TypeError UnboundLocalError UnicodeDecodeError",
  "UnicodeEncodeError UnicodeError UnicodeTranslateError UnicodeWarning UserWarning",
  "ValueError Warning ZeroDivisionError __annotations__ __build_class__ __class__ __debug__",
  "__delattr__ __dict__ __dir__ __doc__ __eq__ __format__ __ge__ __getattribute__",
  "__getstate__ __gt__ __hash__ __import__ __init__ __init_subclass__ __le__ __loader__",
  "__lt__ __name__ __ne__ __new__ __package__ __reduce__ __reduce_ex__ __repr__ __setattr__",
  "__sizeof__ __spec__ __str__ __subclasshook__ abs aiter all anext any ascii bin bool",
  "breakpoint bytearray bytes callable chr classmethod compile complex copyright credits",
  "delattr dict dir divmod enumerate eval exec exit filter float format frozenset getattr",
  "globals hasattr hash help hex id input int isinstance issubclass iter len license list",
  "locals map max memoryview min next object oct open ord pow print property quit range",
  "repr reversed round set setattr slice sorted staticmethod str sum super tuple type vars",
  "zip"]

/-- Is it a built-in name? -/
def isBuiltinName (name : String) : Bool := builtinNames.contains name

/-! ### What names denote -/

/-- What a name of the standard library denotes. -/
inductive Denotation where
  /-- A type with the module and the name that it was defined under. -/
  | type (module qualname : String)
  /-- Something that is no type. -/
  | value
  deriving DecidableEq, Repr

/-- A library of modules. -/
structure Library where
  /-- The first segments of its modules. -/
  roots : List String
  /-- Its modules below those. -/
  submodules : List String
  /-- Its modules that hold other modules. -/
  packages : List String
  /-- First segments that are known, and whose modules are for other systems. -/
  foreign : List String
  /-- What a dotted name denotes. -/
  denotes : String → Option Denotation

/-- Does a dotted name belong to the library? -/
def Library.owns (library : Library) (name : String) : Bool :=
  let head := (Dotted.splitHead name).1
  head == "builtins" || library.roots.contains head

/-- Is it a module of the library that can be imported? -/
def Library.hasModule (library : Library) (name : String) : Bool :=
  (library.roots.contains name && !library.foreign.contains name) || library.submodules.contains name

/-! ### The known names -/

/-- The first segments of library modules. -/
def libraryRoots : List String := wordsOf [
  "__future__ _abc _aix_support _ast _asyncio _bisect _blake2 _bootsubprocess _bz2 _codecs",
  "_codecs_cn _codecs_hk _codecs_iso2022 _codecs_jp _codecs_kr _codecs_tw _collections",
  "_collections_abc _compat_pickle _compression _contextvars _crypt _csv _ctypes _curses",
  "_curses_panel _datetime _dbm _decimal _elementtree _frozen_importlib",
  "_frozen_importlib_external _functools _gdbm _hashlib _heapq _imp _io _json _locale",
  "_lsprof _lzma _markupbase _md5 _msi _multibytecodec _multiprocessing _opcode _operator",
  "_osx_support _overlapped _pickle _posixshmem _posixsubprocess _py_abc _pydecimal _pyio",
  "_queue _random _scproxy _sha1 _sha256 _sha3 _sha512 _signal _sitebuiltins _socket",
  "_sqlite3 _sre _ssl _stat _statistics _string _strptime _struct _symtable _thread",
  "_threading_local _tkinter _tokenize _tracemalloc _typing _uuid _warnings _weakref",
  "_weakrefset _winapi _zoneinfo abc aifc antigravity argparse array ast asynchat asyncio",
  "asyncore atexit audioop base64 bdb binascii bisect builtins bz2 cProfile calendar cgi",
  "cgitb chunk cmath cmd code codecs codeop collections colorsys compileall concurrent",
  "configparser contextlib contextvars copy copyreg crypt csv ctypes curses dataclasses",
  "datetime dbm decimal difflib dis distutils doctest email encodings ensurepip enum errno",
  "faulthandler fcntl filecmp fileinput fnmatch fractions ftplib functools gc genericpath",
  "getopt getpass gettext glob graphlib grp gzip hashlib heapq hmac html http idlelib",
  "imaplib imghdr imp importlib inspect io ipaddress itertools json keyword lib2to3",
  "linecache locale logging lzma mailbox mailcap marshal math mimetypes mmap modulefinder",
  "msilib msvcrt multiprocessing netrc nis nntplib nt ntpath nturl2path numbers opcode",
  "operator optparse os ossaudiodev pathlib pdb pickle pickletools pipes pkgutil platform",
  "plistlib poplib posix posixpath pprint profile pstats pty pwd py_compile pyclbr pydoc",
  "pydoc_data pyexpat queue quopri random re readline reprlib resource rlcompleter runpy",
  "sched secrets select selectors shelve shlex shutil signal site smtpd smtplib sndhdr",
  "socket socketserver spwd sqlite3 sre_compile sre_constants sre_parse ssl stat statistics",
  "string stringprep struct subprocess sunau symtable sys sysconfig syslog tabnanny tarfile",
  "telnetlib tempfile termios textwrap this threading time timeit tkinter token tokenize",
  "tomllib trace traceback tracemalloc tty turtle turtledemo types typing unicodedata",
  "unittest urllib uu uuid venv warnings wave weakref webbrowser winreg winsound wsgiref",
  "xdrlib xml xmlrpc zipapp zipfile zipimport zlib zoneinfo"]

/-- The first segments of library modules that are for other systems. -/
def foreignRoots : List String := wordsOf [
  "_gdbm _msi _overlapped _scproxy _winapi msilib msvcrt nis nt winreg winsound"]

/-- Library modules that hold other modules. -/
def libraryPackages : List String := wordsOf [
  "asyncio collections concurrent concurrent.futures ctypes ctypes.macholib curses dbm distutils",
  "distutils.command email email.mime encodings ensurepip html http idlelib importlib",
  "importlib.metadata importlib.resources json lib2to3 lib2to3.fixes lib2to3.pgen2 logging",
  "multiprocessing multiprocessing.dummy pydoc_data re sqlite3 tkinter tomllib unittest urllib",
  "venv wsgiref xml xml.dom xml.etree xml.parsers xml.sax xmlrpc zoneinfo"]

/-- Library modules below the first segments. -/
def librarySubmodules : List String := wordsOf [
  "asyncio.base_events asyncio.base_futures asyncio.base_subprocess asyncio.base_tasks",
  "asyncio.constants asyncio.coroutines asyncio.events asyncio.exceptions asyncio.format_helpers",
  "asyncio.futures asyncio.locks asyncio.log asyncio.mixins asyncio.proactor_events",
  "asyncio.protocols asyncio.queues asyncio.runners asyncio.selector_events asyncio.sslproto",
  "asyncio.staggered asyncio.streams asyncio.subprocess asyncio.taskgroups asyncio.tasks",
  "asyncio.threads asyncio.timeouts asyncio.transports asyncio.trsock asyncio.unix_events",
  "asyncio.windows_events asyncio.windows_utils collections.abc concurrent.futures",
  "concurrent.futures._base concurrent.futures.process concurrent.futures.thread ctypes._aix",
  "ctypes._endian ctypes.macholib ctypes.macholib.dyld ctypes.macholib.dylib",
  "ctypes.macholib.framework ctypes.util ctypes.wintypes curses.ascii curses.has_key",
  "curses.panel curses.textpad dbm.dumb dbm.gnu dbm.ndbm email._encoded_words",
  "email._header_value_parser email._parseaddr email._policybase email.base64mime email.charset",
  "email.contentmanager email.encoders email.errors email.feedparser email.generator",
  "email.header email.headerregistry email.iterators email.message email.mime",
  "email.mime.application email.mime.audio email.mime.base email.mime.image email.mime.message",
  "email.mime.multipart email.mime.nonmultipart email.mime.text email.parser email.policy",
  "email.quoprimime email.utils html.entities html.parser http.client http.cookiejar",
  "http.cookies http.server importlib._abc importlib._bootstrap importlib._bootstrap_external",
  "importlib.abc importlib.machinery importlib.metadata importlib.metadata._adapters",
  "importlib.metadata._collections importlib.metadata._functools importlib.metadata._itertools",
  "importlib.metadata._meta importlib.metadata._text importlib.readers importlib.resources",
  "importlib.resources._adapters importlib.resources._common importlib.resources._itertools",
  "importlib.resources._legacy importlib.resources.abc importlib.resources.readers",
  "importlib.resources.simple importlib.simple importlib.util json.decoder json.encoder",
  "json.scanner json.tool logging.config logging.handlers multiprocessing.connection",
  "multiprocessing.context multiprocessing.dummy multiprocessing.dummy.connection",
  "multiprocessing.forkserver multiprocessing.heap multiprocessing.managers multiprocessing.pool",
  "multiprocessing.popen_fork multiprocessing.popen_forkserver multiprocessing.popen_spawn_posix",
  "multiprocessing.popen_spawn_win32 multiprocessing.process multiprocessing.queues",
  "multiprocessing.reduction multiprocessing.resource_sharer multiprocessing.resource_tracker",
  "multiprocessing.shared_memory multiprocessing.sharedctypes multiprocessing.spawn",
  "multiprocessing.synchronize multiprocessing.util os.path re._casefix re._compiler",
  "re._constants re._parser sqlite3.dbapi2 sqlite3.dump tomllib._parser tomllib._re",
  "tomllib._types unittest._log unittest.async_case unittest.case unittest.loader unittest.main",
  "unittest.mock unittest.result unittest.runner unittest.signals unittest.suite unittest.util",
  "urllib.error urllib.parse urllib.request urllib.response urllib.robotparser wsgiref.handlers",
  "wsgiref.headers wsgiref.simple_server wsgiref.types wsgiref.util wsgiref.validate xml.dom",
  "xml.dom.NodeFilter xml.dom.domreg xml.dom.expatbuilder xml.dom.minicompat xml.dom.minidom",
  "xml.dom.pulldom xml.dom.xmlbuilder xml.etree xml.etree.ElementInclude xml.etree.ElementPath",
  "xml.etree.ElementTree xml.etree.cElementTree xml.parsers xml.parsers.expat xml.sax",
  "xml.sax._exceptions xml.sax.expatreader xml.sax.handler xml.sax.saxutils xml.sax.xmlreader",
  "xmlrpc.client xmlrpc.server zoneinfo._common zoneinfo._tzpath zoneinfo._zoneinfo"]

/-- The types that are defined under the name given. -/
def homeTypes : List String := wordsOf [
  "_io.StringIO abc.ABC abc.ABCMeta argparse.ArgumentParser argparse.Namespace array.array",
  "ast.AST ast.Name ast.Str ast.expr builtins.BaseExceptionGroup builtins.Exception",
  "builtins.OSError builtins.StopIteration builtins.ValueError builtins.bytearray",
  "builtins.dict builtins.frozenset builtins.list builtins.memoryview builtins.object",
  "builtins.range builtins.set builtins.slice builtins.tuple builtins.type",
  "calendar.Calendar calendar.HTMLCalendar collections.ChainMap collections.Counter",
  "collections.OrderedDict collections.UserDict collections.UserList",
  "collections.abc.Awaitable collections.abc.Callable collections.abc.Hashable",
  "collections.abc.Iterable collections.abc.Mapping collections.abc.Sequence",
  "collections.abc.Set collections.defaultdict collections.deque configparser.ConfigParser",
  "contextlib.AbstractContextManager contextlib.ExitStack contextlib.suppress copy.Error",
  "csv.Dialect csv.DictReader ctypes.c_int dataclasses.Field dataclasses.InitVar",
  "datetime.date datetime.datetime datetime.time datetime.timedelta datetime.timezone",
  "datetime.tzinfo decimal.Context decimal.Decimal decimal.InvalidOperation",
  "email.message.EmailMessage email.message.Message enum.Enum enum.EnumType enum.Flag",
  "enum.IntEnum enum.StrEnum enum.auto fractions.Fraction functools.cached_property",
  "functools.partial gzip.GzipFile http.HTTPMethod http.HTTPStatus inspect.Parameter",
  "inspect.Signature io.IOBase io.RawIOBase io.UnsupportedOperation ipaddress.IPv4Address",
  "ipaddress.IPv6Network itertools.chain itertools.count json.decoder.JSONDecoder",
  "logging.Handler logging.LogRecord logging.Logger logging.handlers.RotatingFileHandler",
  "numbers.Number numbers.Real operator.attrgetter operator.itemgetter os.PathLike",
  "os.stat_result pathlib.Path pathlib.PosixPath pathlib.PurePath pathlib.PurePosixPath",
  "queue.Full queue.Queue random.Random re.Match re.Pattern re.RegexFlag re.error",
  "socket.AddressFamily socket.socket statistics.NormalDist string.Formatter",
  "string.Template struct.error subprocess.CompletedProcess subprocess.Popen",
  "tempfile.TemporaryDirectory textwrap.TextWrapper threading.Event threading.Thread",
  "threading.Timer time.struct_time traceback.TracebackException types.GenericAlias",
  "types.SimpleNamespace types.UnionType typing.Annotated typing.Any typing.BinaryIO",
  "typing.ForwardRef typing.Generic typing.IO typing.NewType typing.ParamSpec",
  "typing.Protocol typing.SupportsAbs typing.SupportsInt typing.TextIO typing.TypeVar",
  "urllib.parse.ParseResult uuid.SafeUUID uuid.UUID weakref.ReferenceType",
  "weakref.WeakValueDictionary xml.dom.minidom.Document xml.etree.ElementTree.Element",
  "zipfile.ZipFile zlib.error zoneinfo.ZoneInfo"]

/-- The types that are defined under another name: the name given, an equality sign, the module, a
colon and the name in the module. -/
def otherTypes : List String := wordsOf [
  "_collections_abc.Mapping=collections.abc:Mapping _decimal.Decimal=decimal:Decimal",
  "_thread.LockType=_thread:lock _weakref.ref=weakref:ReferenceType",
  "asyncio.AbstractEventLoop=asyncio.events:AbstractEventLoop",
  "asyncio.CancelledError=asyncio.exceptions:CancelledError",
  "asyncio.Event=asyncio.locks:Event asyncio.Future=_asyncio:Future",
  "asyncio.Queue=asyncio.queues:Queue asyncio.StreamReader=asyncio.streams:StreamReader",
  "asyncio.Task=_asyncio:Task asyncio.TimeoutError=builtins:TimeoutError",
  "builtins.EnvironmentError=builtins:OSError builtins.IOError=builtins:OSError",
  "builtins.__class__=builtins:module",
  "concurrent.futures.Executor=concurrent.futures._base:Executor",
  "concurrent.futures.Future=concurrent.futures._base:Future",
  "concurrent.futures.ThreadPoolExecutor=concurrent.futures.thread:ThreadPoolExecutor",
  "concurrent.futures.TimeoutError=builtins:TimeoutError",
  "contextvars.ContextVar=_contextvars:ContextVar contextvars.Token=_contextvars:Token",
  "ctypes.Structure=_ctypes:Structure",
  "ctypes.memmove.__class__=ctypes:CFUNCTYPE.<locals>.CFunctionType",
  "ctypes.pythonapi._FuncPtr=ctypes:CDLL.__init__.<locals>._FuncPtr",
  "datetime.datetime.__class__=builtins:type enum.EnumMeta=enum:EnumType",
  "inspect.Parameter.empty=inspect:_empty inspect.Signature.empty=inspect:_empty",
  "io.BytesIO=_io:BytesIO io.StringIO=_io:StringIO io.TextIOWrapper=_io:TextIOWrapper",
  "json.JSONDecodeError=json.decoder:JSONDecodeError",
  "json.JSONDecoder=json.decoder:JSONDecoder json.JSONEncoder=json.encoder:JSONEncoder",
  "os.DirEntry=posix:DirEntry os.error=builtins:OSError queue.Empty=_queue:Empty",
  "queue.SimpleQueue=_queue:SimpleQueue socket.timeout=builtins:TimeoutError",
  "struct.Struct=_struct:Struct threading.local=_thread:_local types.CodeType=builtins:code",
  "types.EllipsisType=builtins:ellipsis types.FunctionType=builtins:function",
  "types.GeneratorType=builtins:generator types.MappingProxyType=builtins:mappingproxy",
  "types.MethodType=builtins:method types.ModuleType=builtins:module",
  "types.NoneType=builtins:NoneType types.TracebackType=builtins:traceback",
  "typing.AbstractSet=collections.abc:Set",
  "typing.AsyncContextManager=contextlib:AbstractAsyncContextManager",
  "typing.AsyncGenerator=collections.abc:AsyncGenerator",
  "typing.AsyncIterator=collections.abc:AsyncIterator",
  "typing.Awaitable=collections.abc:Awaitable typing.ByteString=collections.abc:ByteString",
  "typing.Callable=collections.abc:Callable typing.ChainMap=collections:ChainMap",
  "typing.Collection=collections.abc:Collection",
  "typing.ContextManager=contextlib:AbstractContextManager",
  "typing.Coroutine=collections.abc:Coroutine typing.Counter=collections:Counter",
  "typing.DefaultDict=collections:defaultdict typing.Deque=collections:deque",
  "typing.Dict=builtins:dict typing.FrozenSet=builtins:frozenset",
  "typing.Generator=collections.abc:Generator typing.Hashable=collections.abc:Hashable",
  "typing.ItemsView=collections.abc:ItemsView typing.Iterable=collections.abc:Iterable",
  "typing.List=builtins:list typing.Mapping=collections.abc:Mapping typing.Match=re:Match",
  "typing.MutableMapping=collections.abc:MutableMapping",
  "typing.OrderedDict=collections:OrderedDict typing.Pattern=re:Pattern",
  "typing.Reversible=collections.abc:Reversible typing.Sequence=collections.abc:Sequence",
  "typing.Set=builtins:set typing.Sized=collections.abc:Sized typing.Text=builtins:str",
  "typing.Tuple=builtins:tuple typing.Type=builtins:type weakref.ref=weakref:ReferenceType"]

/-- The names of things that are no types. -/
def otherValues : List String := wordsOf [
  "__future__.annotations abc.abstractmethod asyncio.sleep builtins.Ellipsis builtins.None",
  "builtins.NotImplemented builtins.__build_class__ builtins.__debug__ builtins.__doc__",
  "builtins.__name__ builtins.copyright builtins.dict.fromkeys builtins.exit",
  "builtins.int.from_bytes builtins.int.real builtins.len builtins.open builtins.print",
  "builtins.str.join calendar.MONDAY collections.abc collections.namedtuple copy.copy",
  "csv.reader dataclasses.KW_ONLY dataclasses.dataclass dataclasses.field datetime.MINYEAR",
  "datetime.UTC datetime.datetime.min datetime.datetime.now datetime.timezone.utc",
  "decimal.Decimal.real decimal.ROUND_UP enum.unique functools.lru_cache functools.wraps",
  "hashlib.sha256 heapq.heappush io.open ipaddress.ip_address json.decoder json.loads",
  "logging.INFO logging.getLogger math.inf math.pi os.environ os.getcwd os.path",
  "os.path.join os.sep pathlib.Path.home queue.Queue.put random.random re.I re.compile",
  "string.Template.pattern string.ascii_letters subprocess.PIPE tempfile.NamedTemporaryFile",
  "threading.Lock threading.RLock time.time typing.AnyStr typing.ClassVar",
  "typing.Concatenate typing.Final typing.List.append typing.Literal typing.LiteralString",
  "typing.NamedTuple typing.Never typing.NoReturn typing.Optional typing.Required",
  "typing.Self typing.TYPE_CHECKING typing.TypeAlias typing.TypedDict typing.Union",
  "typing.Unpack typing.cast urllib.parse.quote uuid.uuid4"]

/-- An entry of `otherTypes`: the name with the type. -/
def parseEntry (entry : String) : String × Denotation :=
  let cs := entry.toList
  let name := cs.takeWhile (· != '=')
  let home := cs.drop (name.length + 1)
  let module := home.takeWhile (· != ':')
  let qualname := home.drop (module.length + 1)
  (String.ofList name, .type (String.ofList module) (String.ofList qualname))

/-- What the known names denote. -/
def denotations : List (String × Denotation) :=
  homeTypes.map (fun name => (name, .type (Dotted.parent name) (Dotted.lastSegment name))) ++
    otherTypes.map parseEntry ++ otherValues.map fun name => (name, .value)

/-- The standard library. -/
def Library.standard : Library where
  roots := libraryRoots
  submodules := librarySubmodules
  packages := libraryPackages
  foreign := foreignRoots
  denotes name := (denotations.find? fun entry => entry.1 == name).map Prod.snd

end FluentBuilder
