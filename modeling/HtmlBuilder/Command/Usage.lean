import HtmlBuilder.Command.Invocation

/-!
The texts that the command line shows: the wording of its errors, the help in a
long and a short form, and the version.
-/

namespace HtmlBuilder.Command

def NumberFault.text : NumberFault → String
  | .empty => "cannot parse integer from empty string"
  | .invalidDigit => "invalid digit found in string"
  | .tooLarge => "number too large to fit in target type"
  | .tooSmall => "number too small to fit in target type"
  | .outOfRange n limit => toString n ++ " is not in 0..=" ++ toString limit

/-- The wording of an error; a value in it may span lines. -/
def UsageError.message : UsageError → String
  | .missingValue option =>
    "a value is required for '" ++ option.text ++ "' but none was supplied"
  | .repeatedOption option =>
    "the argument '" ++ option.text ++ "' cannot be used multiple times"
  | .repeatedFlag flag =>
    "the argument '" ++ flag.text ++ "' cannot be used multiple times"
  | .invalidValue value option fault =>
    "invalid value '" ++ value ++ "' for '" ++ option.text ++
    "': " ++ fault.text
  | .unknown argument => "unexpected argument '" ++ argument ++ "' found"
  | .unneededValue value flag =>
    "unexpected value '" ++ value ++ "' for '" ++ flag.text ++
    "' found; no more were expected"

def versionText : String := "html2kara 0.1.0\n"

def shortHelp : String :=
  "Convert HTML markup to Kara builder DSL source

Usage: html2kara [OPTIONS] [input]

Arguments:
  [input]  Input HTML file, or '-' for stdin

Options:
  -o, --output <FILE>     Write the result to FILE instead of stdout
      --config <PATH>     Path to an html2kara.toml configuration file
      --indent-width <N>  Indent with N spaces instead of the configured indent
      --base-depth <N>    Nesting level of top-level nodes
      --direct-links      Emit href values as DirectLink(\"...\") calls
      --force             Convert even if the input contains no HTML
      --check             Only report whether the input contains HTML (exit status 0 or 1)
  -v, --verbose...        Increase log output (repeatable)
  -h, --help              Print help (see more with '--help')
  -V, --version           Print version
"

def longHelp : String :=
  "html2kara turns HTML fragments or documents into Kara DSL.

Tags become builder calls, attributes become named arguments and
nested content becomes blocks. Input without a <body> tag is
converted as a fragment.

Examples:
  html2kara page.html                     # Convert to stdout
  echo '<b>hi</b>' | html2kara            # Convert stdin
  html2kara page.html -o Page.kt          # Write to a file
  html2kara snippet.txt --check           # Does it contain HTML?

Usage: html2kara [OPTIONS] [input]

Arguments:
  [input]
          Input HTML file, or '-' for stdin

Options:
  -o, --output <FILE>
          Write the result to FILE instead of stdout

      --config <PATH>
          Path to an html2kara.toml configuration file

      --indent-width <N>
          Indent with N spaces instead of the configured indent

      --base-depth <N>
          Nesting level of top-level nodes

      --direct-links
          Emit href values as DirectLink(\"...\") calls

      --force
          Convert even if the input contains no HTML

      --check
          Only report whether the input contains HTML (exit status 0 or 1)

  -v, --verbose...
          Increase log output (repeatable)

  -h, --help
          Print help (see a summary with '-h')

  -V, --version
          Print version
"

end HtmlBuilder.Command
