/-!
The fixed texts of the command line.
-/

namespace DeclSchema.Command

def programName : String := "gql-tsschema"

def versionText : String := programName ++ ", version 0.1.0\n"

def usageLine : String := "Usage: " ++ programName ++ " [OPTIONS]\n"

def usageHint : String := usageLine ++ "Try '" ++ programName ++ " --help' for help.\n\n"

def helpText : String :=
  usageLine ++
  "\n" ++
  "  Convert TypeScript type declarations to a GraphQL schema.\n" ++
  "\n" ++
  "  Examples:\n" ++
  "\n" ++
  "      gql-tsschema -i ./src/generated/graphql.ts\n" ++
  "\n" ++
  "      gql-tsschema -i ./graphql.ts -o ./schema.graphql\n" ++
  "\n" ++
  "      gql-tsschema -i ./graphql.ts -o ./schema.graphql --header \"Generated - do\n" ++
  "      not edit\"\n" ++
  "\n" ++
  "Options:\n" ++
  "  --version          Show the version and exit.\n" ++
  "  -i, --input FILE   Path to the TypeScript file with type declarations.\n" ++
  "                     [required]\n" ++
  "  -o, --output FILE  Output file for the GraphQL schema. Prints to stdout when\n" ++
  "                     omitted.\n" ++
  "  --header TEXT      Comment header to put at the top of the generated schema.\n" ++
  "  -v, --verbose      Enable verbose output.\n" ++
  "  --help             Show this message and exit.\n"

end DeclSchema.Command
