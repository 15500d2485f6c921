import Tincture.Text.Property.Space

/-!
Keywords.

Keywords are written in groups, separated by commas or white space, so that languages can share
those they have in common.
-/

namespace Tincture.Keyword

/-- Whether a character separates keywords. -/
def isSeparator (c : Char) : Bool := c == ',' || Property.space.holds c

/-- The words of a text, `word` being the beginning of the current one in reverse. -/
def wordsAfter (word : List Char) : List Char → List (List Char)
  | [] => if word.isEmpty then [] else [word.reverse]
  | c :: rest =>
    if isSeparator c then
      if word.isEmpty then wordsAfter [] rest else word.reverse :: wordsAfter [] rest
    else wordsAfter (c :: word) rest

/-- The words of a text: its longest runs without separators. -/
def words (text : List Char) : List (List Char) := wordsAfter [] text

/-- Adds a keyword unless it is there already. -/
def add (keywords : List String) (keyword : String) : List String :=
  if keywords.contains keyword then keywords else keywords ++ [keyword]

/-- The keywords of all groups, each at its first place. -/
def split (groups : List String) : List String :=
  (groups.flatMap fun group => (words group.toList).map String.ofList).foldl add []

/-! ### Groups -/

def flowControl : String := "break,continue,do,else,for,if,return,while"

def c : String :=
  "auto,case,char,const,default,double,enum,extern,float,goto,inline,int,long,register,restrict,"
  ++ "short,signed,sizeof,static,struct,switch,typedef,union,unsigned,void,volatile"

def common : String :=
  "catch,class,delete,false,import,new,operator,private,protected,public,this,throw,true,try,typeof"

def cpp : String :=
  "alignas,alignof,align_union,asm,axiom,bool,concept,concept_map,const_cast,constexpr,decltype,"
  ++ "delegate,dynamic_cast,explicit,export,friend,generic,late_check,mutable,namespace,noexcept,"
  ++ "noreturn,nullptr,property,reinterpret_cast,static_assert,static_cast,template,typeid,typename,"
  ++ "using,virtual,where"

def java : String :=
  "abstract,assert,boolean,byte,extends,finally,final,implements,import,instanceof,interface,null,"
  ++ "native,package,strictfp,super,synchronized,throws,transient"

def csharp : String :=
  "abstract,add,alias,as,ascending,async,await,base,bool,by,byte,checked,decimal,delegate,"
  ++ "descending,dynamic,event,finally,fixed,foreach,from,get,global,group,implicit,in,interface,"
  ++ "internal,into,is,join,let,lock,null,object,out,override,orderby,params,partial,readonly,ref,"
  ++ "remove,sbyte,sealed,select,set,stackalloc,string,select,uint,ulong,unchecked,unsafe,ushort,value,"
  ++ "var,virtual,where,yield"

def jscript : String :=
  "abstract,async,await,constructor,debugger,enum,eval,export,function,get,implements,instanceof,"
  ++ "interface,let,null,set,undefined,var,with,yield,Infinity,NaN"

def python : String :=
  "and,as,assert,class,def,del,elif,except,exec,finally,from,global,import,in,is,lambda,nonlocal,"
  ++ "not,or,pass,print,raise,try,with,yield,False,True,None"

def ruby : String :=
  "alias,and,begin,case,class,def,defined,elsif,end,ensure,false,in,module,next,nil,not,or,redo,"
  ++ "rescue,retry,self,super,then,true,undef,unless,until,when,yield,BEGIN,END"

def shell : String := "case,done,elif,esac,eval,fi,function,in,local,set,then,until"

def coffee : String :=
  "all,and,by,catch,class,else,extends,false,finally,for,if,in,is,isnt,loop,new,no,not,null,of,off,"
  ++ "on,or,return,super,then,throw,true,try,unless,until,when,while,yes"

def perl : String :=
  "caller,delete,die,do,dump,elsif,eval,exit,foreach,for,goto,if,import,last,local,my,next,no,our,"
  ++ "print,package,redo,require,sub,undef,unless,until,use,wantarray,while,BEGIN,END"

def json : String := "null,true,false"

/-! ### The groups of each language -/

def ofCoffee : List String := [coffee]
def ofPerl : List String := [perl]
def ofCpp : List String := [flowControl, c, common, cpp]
def ofJava : List String := [flowControl, c, common, java]
def ofCsharp : List String := [flowControl, c, common, csharp]
def ofJscript : List String := [flowControl, c, common, jscript]
def ofPython : List String := [flowControl, python]
def ofRuby : List String := [flowControl, ruby]
def ofShell : List String := [flowControl, shell]
def ofJson : List String := [json]

/-- The groups of code in an unknown language. -/
def ofAll : List String :=
  [flowControl, c, common, cpp, csharp, java, jscript, perl, python, ruby, shell]

end Tincture.Keyword
