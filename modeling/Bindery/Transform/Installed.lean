/-!
# Installed modules

Modules can be imported although no file of a run holds them: those that come with the interpreter
that runs transforms, and those that the program is installed with. One of them registers the
transform that does nothing, the others register none. Some of them stand ready before anything is
imported, and no file takes their place; a file of any other name is found before a module that is
installed under that name.
-/

namespace Bindery.Installed

/-- The modules that stand ready. -/
def ready : List String :=
  ["__main__", "abc", "array", "ast", "atexit", "binascii", "bisect", "builtins", "bz2",
   "click", "cmath", "codecs", "collections", "contextlib", "copy", "copyreg", "cxxbind",
   "cxxbind.plugins", "cxxbind.plugins.base", "dataclasses", "dis", "enum", "errno",
   "faulthandler", "fcntl", "fnmatch", "functools", "gc", "genericpath", "grp", "hashlib",
   "importlib", "inspect", "io", "ipaddress", "itertools", "json", "keyword", "linecache",
   "logging", "lzma", "marshal", "math", "mmap", "ntpath", "opcode", "operator", "os",
   "os.path", "pathlib", "posix", "posixpath", "pwd", "pyexpat", "random", "re", "reprlib",
   "resource", "select", "shutil", "site", "stat", "string", "sys", "syslog", "tempfile",
   "termios", "textwrap", "threading", "time", "token", "tokenize", "tqdm", "traceback",
   "tree_sitter", "tree_sitter_cpp", "types", "typing", "unicodedata", "urllib", "warnings",
   "weakref", "yaml", "zipimport", "zlib"]

/-- The modules whose names have no point. -/
def modules : List String :=
  ["__future__", "__main__", "_thread", "abc", "aifc", "antigravity", "argparse", "array",
   "ast", "asynchat", "asyncio", "asyncore", "atexit", "audioop", "base64", "bdb", "binascii",
   "bisect", "builtins", "bz2", "cProfile", "calendar", "cgi", "cgitb", "chunk", "click",
   "cmath", "cmd", "code", "codecs", "codeop", "collections", "colorsys", "compileall",
   "concurrent", "configparser", "contextlib", "contextvars", "copy", "copyreg", "csv",
   "ctypes", "curses", "cxxbind", "dataclasses", "datetime", "dbm", "decimal", "difflib", "dis",
   "distutils", "doctest", "email", "encodings", "enum", "errno", "faulthandler", "fcntl",
   "filecmp", "fileinput", "fnmatch", "fractions", "ftplib", "functools", "gc", "genericpath",
   "getopt", "getpass", "gettext", "glob", "graphlib", "grp", "gzip", "hashlib", "heapq",
   "hmac", "html", "http", "imaplib", "imghdr", "imp", "importlib", "inspect", "io",
   "ipaddress", "itertools", "json", "keyword", "linecache", "locale", "logging", "lzma",
   "mailbox", "mailcap", "marshal", "math", "mimetypes", "mmap", "modulefinder",
   "multiprocessing", "netrc", "nntplib", "ntpath", "nturl2path", "numbers", "opcode",
   "operator", "optparse", "os", "pathlib", "pdb", "pickle", "pickletools", "pip", "pipes",
   "pkg_resources", "pkgutil", "platform", "plistlib", "poplib", "posix", "posixpath", "pprint",
   "profile", "pstats", "pty", "pwd", "py_compile", "pyclbr", "pydoc", "pyexpat", "queue",
   "quopri", "random", "re", "reprlib", "resource", "rlcompleter", "runpy", "sched", "secrets",
   "select", "selectors", "setuptools", "shelve", "shlex", "shutil", "signal", "site", "smtpd",
   "smtplib", "sndhdr", "socket", "socketserver", "sqlite3", "sre_compile", "sre_constants",
   "sre_parse", "ssl", "stat", "statistics", "string", "stringprep", "struct", "subprocess",
   "sunau", "symtable", "sys", "sysconfig", "syslog", "tabnanny", "tarfile", "telnetlib",
   "tempfile", "termios", "textwrap", "this", "threading", "time", "timeit", "token",
   "tokenize", "tomllib", "tqdm", "trace", "traceback", "tracemalloc", "tree_sitter",
   "tree_sitter_cpp", "tty", "types", "typing", "unicodedata", "unittest", "urllib", "uu",
   "uuid", "venv", "warnings", "wave", "weakref", "webbrowser", "wsgiref", "xdrlib", "xml",
   "xmlrpc", "yaml", "zipapp", "zipfile", "zipimport", "zlib", "zoneinfo"]

/-- The packages and the modules in them. -/
def packages : List (String × List String) :=
  [("asyncio", [
     "base_events", "base_futures", "base_subprocess", "base_tasks", "constants", "coroutines",
     "events", "exceptions", "format_helpers", "futures", "locks", "log", "mixins",
     "proactor_events", "protocols", "queues", "runners", "selector_events", "sslproto",
     "staggered", "streams", "subprocess", "taskgroups", "tasks", "threads", "timeouts",
     "transports", "trsock", "unix_events"]),
   ("click", [
     "core", "decorators", "exceptions", "formatting", "globals", "parser", "shell_completion",
     "termui", "testing", "types", "utils"]),
   ("collections", ["abc"]),
   ("concurrent", ["futures"]),
   ("concurrent.futures", ["process", "thread"]),
   ("ctypes", ["macholib", "util", "wintypes"]),
   ("ctypes.macholib", ["dyld", "dylib", "framework"]),
   ("curses", ["ascii", "has_key", "panel", "textpad"]),
   ("cxxbind", ["plugins"]),
   ("cxxbind.plugins", ["base"]),
   ("dbm", ["dumb"]),
   ("distutils", ["core", "dist", "errors", "extension", "log", "util", "version"]),
   ("email", [
     "base64mime", "charset", "contentmanager", "encoders", "errors", "feedparser", "generator",
     "header", "headerregistry", "iterators", "message", "mime", "parser", "policy", "quoprimime",
     "utils"]),
   ("email.mime", [
     "application", "audio", "base", "image", "message", "multipart", "nonmultipart", "text"]),
   ("encodings", [
     "ascii", "cp1252", "idna", "latin_1", "punycode", "utf_16", "utf_32", "utf_7", "utf_8"]),
   ("html", ["entities", "parser"]),
   ("http", ["client", "cookiejar", "cookies", "server"]),
   ("importlib", ["abc", "machinery", "metadata", "readers", "resources", "simple", "util"]),
   ("importlib.metadata", []),
   ("importlib.resources", ["abc", "readers", "simple"]),
   ("json", ["decoder", "encoder", "scanner", "tool"]),
   ("logging", ["config", "handlers"]),
   ("multiprocessing", [
     "connection", "context", "dummy", "forkserver", "heap", "managers", "pool", "popen_fork",
     "popen_forkserver", "popen_spawn_posix", "process", "queues",
     "reduction", "resource_sharer", "resource_tracker", "shared_memory", "sharedctypes", "spawn",
     "synchronize", "util"]),
   ("multiprocessing.dummy", ["connection"]),
   ("pip", []),
   ("pkg_resources", []),
   ("re", []),
   ("setuptools", []),
   ("sqlite3", ["dbapi2", "dump"]),
   ("tomllib", []),
   ("tqdm", ["asyncio", "auto", "cli", "contrib", "std", "utils", "version"]),
   ("tree_sitter", []),
   ("tree_sitter_cpp", []),
   ("unittest", [
     "async_case", "case", "loader", "main", "mock", "result", "runner", "signals", "suite",
     "util"]),
   ("urllib", ["error", "parse", "request", "response", "robotparser"]),
   ("venv", []),
   ("wsgiref", ["handlers", "headers", "simple_server", "types", "util", "validate"]),
   ("xml", ["dom", "etree", "parsers", "sax"]),
   ("xml.dom", [
     "NodeFilter", "domreg", "expatbuilder", "minicompat", "minidom", "pulldom", "xmlbuilder"]),
   ("xml.etree", ["ElementInclude", "ElementPath", "ElementTree", "cElementTree"]),
   ("xml.parsers", ["expat"]),
   ("xml.sax", ["expatreader", "handler", "saxutils", "xmlreader"]),
   ("xmlrpc", ["client", "server"]),
   ("yaml", [
     "composer", "constructor", "cyaml", "dumper", "emitter", "error", "events", "loader", "nodes",
     "parser", "reader", "representer", "resolver", "scanner", "serializer", "tokens"]),
   ("zoneinfo", [])]

/-- The names of the modules in a package; a module that is no package has none. -/
def parts? (name : String) : Option (List String) :=
  (packages.find? (·.1 == name)).map (·.2)

/-- Whether a package has a module of a name. -/
def hasPart (package part : String) : Bool :=
  (parts? package).any (·.contains part)

/-- What has a module is a package. -/
theorem isSome_parts?_of_hasPart {package part : String} (h : hasPart package part = true) :
    (parts? package).isSome = true := by
  unfold hasPart at h
  cases hp : parts? package <;> simp_all

end Bindery.Installed
