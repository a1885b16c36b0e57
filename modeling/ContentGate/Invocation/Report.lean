/-
  ContentGate.Invocation.Report — what a tag shows about itself.

  The verbose block shows the tag, its attributes in normal form and its
  condition; the error block lists what is wrong.  All that comes from
  authors is escaped, so the markup of a block is that of its template;
  in errors, what stands between backticks is marked as code.
-/
import ContentGate.Invocation.Basic

namespace ContentGate.Invocation

/-- The heading of a part of a block. -/
def heading (name what : String) : String := "<code>[" ++ name ++ "]</code> Shortcode " ++ what

/-- The verbose block. -/
def verboseBlock (name : String) (i : Invocation) : String :=
  let name := Markup.escape name
  "<pre style=\"padding:1em; border-radius:.25em; max-width:100%; overflow:auto;\">"
    ++ heading name "Verbose" ++ "<br />" ++ Markup.escape i.recreate ++ "<br /><br />"
    ++ heading name "Atts" ++ "<br />" ++ Markup.escape i.attributesJson ++ "<br /><br />"
    ++ heading name "Conditions" ++ "<br />" ++ Markup.escape i.conditionText ++ "</pre>"

/-- The opening of an item of the list of errors. -/
def errorItem (isFirst : Bool) : String :=
  "<li style=\"background:inherit; color:inherit; margin:"
    ++ (if isFirst then "0" else "1em 0 0 0") ++ "; padding:0;\">"

/-- The messages as items of a list; without errors the list has one empty item. -/
def errorItems (errors : List TagError) : String :=
  errorItem true
    ++ ("</li>" ++ errorItem false).intercalate (errors.map fun e => Markup.codeSpans e.message)
    ++ "</li>"

/-- The error block. -/
def errorBlock (name : String) (i : Invocation) : String :=
  "<div style=\"background:#b30000; color:#FFFFFF; padding:1em; border-radius:.25em;\">"
    ++ "<h4 style=\"background:inherit; color:inherit; margin:0 0 .5em 0; padding:0 0 .5em 0; "
    ++ "line-height:1em; border-bottom:1px solid;\">"
    ++ heading (Markup.escape name) (if i.errors.length = 1 then "Error" else "Errors") ++ "</h4>"
    ++ "<pre style=\"padding:1em; margin:0 0 .5em 0; border-radius:.25em; max-width:100%; "
    ++ "overflow:auto;\">" ++ Markup.escape i.recreate ++ "</pre>"
    ++ "<ul style=\"margin:0 0 0 2em; padding:0; background:inherit; color:inherit;\">"
    ++ errorItems i.errors ++ "</ul></div>"

end ContentGate.Invocation
