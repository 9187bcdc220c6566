import PageBundle.FileSet
import PageBundle.Markup.Section

/-!
The finished document: a fixed prologue, the style sheets and scripts that nothing referred to, and either
the sections of the entry page or a page that only says that there was none.
-/

namespace PageBundle.Document

def placeholder : String := "Your project has been deployed successfully!"

/-- Everything up to and with the title. -/
def prologue (title : String) : String :=
  "<!DOCTYPE html>\n<html lang=\"en\">\n<head>\n" ++
  "  <meta charset=\"UTF-8\">\n" ++
  "  <meta name=\"viewport\" content=\"width=device-width, initial-scale=1.0\">\n" ++
  "  <title>" ++ title ++ "</title>\n"

def epilogue : String := "</body>\n</html>"

/-- A style sheet in a block: a comment with its path, its content and an empty line. -/
def styleEntry (f : File) : String := "/* " ++ f.path ++ " */\n" ++ f.content ++ "\n\n"

def scriptEntry (f : File) : String := "// " ++ f.path ++ "\n" ++ f.content ++ "\n\n"

/-- An element around the entries of some files; nothing for no file. -/
def block (indent tag : String) (entry : File → String) (files : List File) : String :=
  if files.isEmpty then ""
  else indent ++ "<" ++ tag ++ ">\n" ++ String.join (files.map entry) ++ indent ++ "</" ++ tag ++ ">\n"

def styleBlock (styles : List File) : String := block "  " "style" styleEntry styles

def scriptBlock (indent : String) (scripts : List File) : String :=
  block indent "script" scriptEntry scripts

/-- What goes into a document around an entry page. -/
structure Parts where
  title : String
  /-- The head after inlining, without a title. -/
  head : String
  /-- The body after inlining. -/
  body : String
  /-- Style sheets to be added. -/
  styles : List File
  /-- Scripts to be added. -/
  scripts : List File

def assemble (p : Parts) : String :=
  prologue p.title ++ styleBlock p.styles ++ Markup.stripStructure p.head ++
    "\n</head>\n<body>\n" ++ Markup.stripStructure p.body ++ "\n" ++ scriptBlock "" p.scripts ++ epilogue

/-- The document of a project without a page. -/
def synthesize (title : String) (styles scripts : List File) : String :=
  prologue title ++ styleBlock styles ++ "</head>\n<body>\n" ++
    "  <div id=\"app\">\n" ++
    "    <h1>" ++ title ++ "</h1>\n" ++
    "    <p>" ++ placeholder ++ "</p>\n" ++
    "  </div>\n\n" ++ scriptBlock "  " scripts ++ epilogue

end PageBundle.Document
