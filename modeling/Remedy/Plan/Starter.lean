import Remedy.Text

/-!
# The starter plan

The plan that comes with the program. It holds scan settings only, and shows in comments how patches
and probes are written.
-/

namespace Remedy.Starter

def lines : List String :=
  ["# patchwarden remediation plan",
    "#",
    "# scan:    which files `patchwarden scan` reads and which lines it ignores",
    "# patches: function-level replacements applied by `patchwarden fix`",
    "# probes:  independent checks run by `patchwarden fix` and `patchwarden verify`",
    "",
    "version: \"1.0\"",
    "name: patchwarden-default",
    "description: Starter plan. Scan settings only; add patches and probes for your tree.",
    "",
    "scan:",
    "  include:",
    "    - \"**/*.c\"",
    "    - \"**/*.h\"",
    "  exclude:",
    "    - \"build/**\"",
    "    - \"test/**\"",
    "  # Lines containing any of these substrings are not reported",
    "  allow_list: []",
    "  exceptions: []",
    "  #  - pattern: \"src/vendor/**\"",
    "  #    ignore: [unchecked-allocation]",
    "  #    reason: allocations are released by the caller",
    "",
    "patches: []",
    "#  - id: buffer-bounds",
    "#    target_file: src/buffer.c",
    "#    locator:",
    "#      strategy: signature",
    "#      signature: \"int buffer_append(buffer_t *buf, const char *data, size_t size)\"",
    "#      end:",
    "#        mode: brace-depth",
    "#    replacement: |",
    "#      int buffer_append(buffer_t *buf, const char *data, size_t size) \x7b",
    "#          ...",
    "#      \x7d",
    "",
    "probes: []",
    "#  - file: src/buffer.c",
    "#    expected_present:",
    "#      - \"if (buf->length + size >= buf->size)\"",
    "#    expected_absent:",
    "#      - regex: '\\bstrcpy\\s*\\('",
    "#    allow_list: []"]

def text : Text := lines.flatMap fun line => Text.ofString line ++ [0x0A]

/-- Where the plan lies in the directory of the program. -/
def file : Text := "plans/default.yaml"

/-- The name of the file that a copy of the plan is written to. -/
def defaultName : Text := "patchwarden.plan.yaml"

end Remedy.Starter
