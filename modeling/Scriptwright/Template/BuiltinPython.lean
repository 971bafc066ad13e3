import Scriptwright.Template.Basic

/-!
The built-in Python templates.
-/
namespace Scriptwright.Template.Builtin

def source (lines : List String) : String := String.join (lines.map (· ++ "\n"))

def descriptionVariable : Variable := .needed "description" .string "Script description"

def mainLogicVariable : Variable := .needed "main_logic" .string "Main script logic"

def importsVariable : Variable :=
  .withDefault "imports" .array (.array []) "Python libraries to import"

namespace Python

def basicSource : String := source [
  "#!/usr/bin/env python3",
  "\"\"\"\x7b\x7b description \x7d\x7d",
  "",
  "Generated by scrypgen (\x7b\x7b complexity \x7d\x7d complexity).",
  "\x7b\x7b signature() \x7d\x7d",
  "Dependencies: \x7b\x7b dependencies | join(sep=\", \") \x7d\x7d",
  "\"\"\"",
  "",
  "import logging",
  "import sys",
  "\x7b% if imports %\x7d\x7b\x7b python_imports(libraries=imports) \x7d\x7d",
  "\x7b% endif %\x7d",
  "logging.basicConfig(",
  "    level=logging.INFO,",
  "    format=\"%(asctime)s - %(levelname)s - %(message)s\",",
  "    datefmt=\"%Y-%m-%d %H:%M:%S\",",
  ")",
  "logger = logging.getLogger(__name__)",
  "",
  "",
  "def main():",
  "    \"\"\"Main execution function.\"\"\"",
  "    logger.info(\"Starting script execution\")",
  "    try:",
  "\x7b\x7b main_logic | indent_block(width=8) \x7d\x7d",
  "        logger.info(\"Script completed successfully\")",
  "    except Exception as error:",
  "        logger.error(\"Script failed: %s\", error)",
  "        return 1",
  "    return 0",
  "",
  "",
  "if __name__ == \"__main__\":",
  "    sys.exit(main())"]

def guiSource : String := source [
  "#!/usr/bin/env python3",
  "\"\"\"\x7b\x7b description \x7d\x7d",
  "",
  "Desktop application generated by scrypgen.",
  "\x7b\x7b signature() \x7d\x7d",
  "Dependencies: \x7b\x7b dependencies | join(sep=\", \") \x7d\x7d",
  "\"\"\"",
  "",
  "import logging",
  "import tkinter as tk",
  "from tkinter import ttk, messagebox",
  "\x7b% if imports %\x7d\x7b\x7b python_imports(libraries=imports) \x7d\x7d",
  "\x7b% endif %\x7d",
  "logging.basicConfig(level=logging.INFO, format=\"%(asctime)s - %(levelname)s - %(message)s\")",
  "logger = logging.getLogger(__name__)",
  "",
  "COLORS = \x7b",
  "    \"background\": \"#0a0a0f\",",
  "    \"surface\": \"#1a1a2e\",",
  "    \"accent\": \"#00ff7f\",",
  "    \"text\": \"#ffffff\",",
  "\x7d",
  "",
  "FEATURES = [\x7b% for feature in features %\x7d\x7b\x7b feature | py_string \x7d\x7d, " ++
    "\x7b% endfor %\x7d]",
  "",
  "",
  "class \x7b\x7b app_name | identifier \x7d\x7d:",
  "    \"\"\"Main application window.\"\"\"",
  "",
  "    def __init__(self, root):",
  "        self.root = root",
  "        self.status_var = tk.StringVar(value=\"Ready\")",
  "        self.setup_window()",
  "        self.create_widgets()",
  "",
  "    def setup_window(self):",
  "        self.root.title(\x7b\x7b app_name | py_string \x7d\x7d)",
  "        self.root.geometry(\"800x600\")",
  "        self.root.configure(bg=COLORS[\"background\"])",
  "",
  "    def create_widgets(self):",
  "        frame = ttk.Frame(self.root, padding=20)",
  "        frame.pack(fill=tk.BOTH, expand=True)",
  "        ttk.Label(frame, text=\x7b\x7b app_name | py_string \x7d\x7d).pack(pady=(0, 20))",
  "        for feature in FEATURES:",
  "            ttk.Label(frame, text=feature.replace(\"_\", \" \").title()).pack(anchor=tk.W)",
  "",
  "\x7b\x7b main_logic | indent_block(width=8) \x7d\x7d",
  "",
  "        ttk.Button(frame, text=\"About\", command=self.show_about).pack(side=tk.BOTTOM, " ++
    "pady=10)",
  "        ttk.Label(frame, textvariable=self.status_var).pack(side=tk.BOTTOM, fill=tk.X)",
  "",
  "    def show_about(self):",
  "        messagebox.showinfo(\"About\", \x7b\x7b app_name | py_string \x7d\x7d + \" - " ++
    "generated by scrypgen\")",
  "",
  "",
  "def main():",
  "    \"\"\"Application entry point.\"\"\"",
  "    try:",
  "        root = tk.Tk()",
  "        \x7b\x7b app_name | identifier \x7d\x7d(root)",
  "        root.mainloop()",
  "    except tk.TclError as error:",
  "        logger.error(\"Could not start the application: %s\", error)",
  "        return 1",
  "    return 0",
  "",
  "",
  "if __name__ == \"__main__\":",
  "    raise SystemExit(main())"]

def fileProcessingSource : String := source [
  "#!/usr/bin/env python3",
  "\"\"\"\x7b\x7b description \x7d\x7d",
  "",
  "File processing script generated by scrypgen.",
  "\x7b\x7b signature() \x7d\x7d",
  "Dependencies: \x7b\x7b dependencies | join(sep=\", \") \x7d\x7d",
  "\"\"\"",
  "",
  "import logging",
  "import os",
  "import sys",
  "from pathlib import Path",
  "\x7b% if imports %\x7d\x7b\x7b python_imports(libraries=imports) \x7d\x7d",
  "\x7b% endif %\x7d",
  "logging.basicConfig(level=logging.INFO, format=\"%(asctime)s - %(name)s - %(levelname)s " ++
    "- %(message)s\")",
  "logger = logging.getLogger(__name__)",
  "",
  "",
  "class FileProcessor:",
  "    \"\"\"Walks an input path and processes every file it finds.\"\"\"",
  "",
  "    def __init__(self, input_path, output_path=None):",
  "        self.input_path = Path(input_path)",
  "        self.output_path = Path(output_path) if output_path else None",
  "        self.processed_count = 0",
  "        self.error_count = 0",
  "",
  "    def process_files(self):",
  "        \"\"\"Process a single file or every file below a directory.\"\"\"",
  "        logger.info(\"Starting file processing: %s\", self.input_path)",
  "        if self.input_path.is_file():",
  "            return self._process_single_file(self.input_path)",
  "        if self.input_path.is_dir():",
  "            return self._process_directory(self.input_path)",
  "        logger.error(\"Invalid input path: %s\", self.input_path)",
  "        return False",
  "",
  "    def _process_single_file(self, file_path):",
  "        \"\"\"Process one file.\"\"\"",
  "        try:",
  "            logger.info(\"Processing file: %s\", file_path)",
  "\x7b\x7b main_logic | indent_block(width=12) \x7d\x7d",
  "            self.processed_count += 1",
  "            return True",
  "        except (OSError, ValueError) as error:",
  "            logger.error(\"Failed to process %s: %s\", file_path, error)",
  "            self.error_count += 1",
  "            return False",
  "",
  "    def _process_directory(self, dir_path):",
  "        \"\"\"Process every file below a directory.\"\"\"",
  "        success = True",
  "        for root, _dirs, files in os.walk(dir_path):",
  "            for name in sorted(files):",
  "                if not self._process_single_file(Path(root) / name):",
  "                    success = False",
  "        return success",
  "",
  "    def get_stats(self):",
  "        \"\"\"Return processing statistics.\"\"\"",
  "        total = self.processed_count + self.error_count",
  "        rate = (self.processed_count / total) * 100 if total else 0",
  "        return \x7b\"processed\": self.processed_count, \"errors\": self.error_count, " ++
    "\"success_rate\": rate\x7d",
  "",
  "",
  "def main():",
  "    \"\"\"Main execution function.\"\"\"",
  "    if len(sys.argv) < 2:",
  "        logger.error(\"Usage: %s <input_path> [output_path]\", sys.argv[0])",
  "        return 1",
  "",
  "    output_path = sys.argv[2] if len(sys.argv) > 2 else None",
  "    processor = FileProcessor(sys.argv[1], output_path)",
  "    success = processor.process_files()",
  "    logger.info(\"Processing complete: %s\", processor.get_stats())",
  "    return 0 if success else 1",
  "",
  "",
  "if __name__ == \"__main__\":",
  "    sys.exit(main())"]

def webSource : String := source [
  "#!/usr/bin/env python3",
  "\"\"\"\x7b\x7b description \x7d\x7d",
  "",
  "Web automation script generated by scrypgen.",
  "\x7b\x7b signature() \x7d\x7d",
  "Dependencies: \x7b\x7b dependencies | join(sep=\", \") \x7d\x7d",
  "\"\"\"",
  "",
  "import logging",
  "import sys",
  "import urllib.request",
  "from urllib.error import URLError",
  "\x7b% if imports %\x7d\x7b\x7b python_imports(libraries=imports) \x7d\x7d",
  "\x7b% endif %\x7d",
  "logging.basicConfig(level=logging.INFO, format=\"%(asctime)s - %(levelname)s - %(message)s\")",
  "logger = logging.getLogger(__name__)",
  "",
  "DEFAULT_TIMEOUT = 30",
  "",
  "",
  "def fetch(url, timeout=DEFAULT_TIMEOUT):",
  "    \"\"\"Fetch a URL and return the decoded body.\"\"\"",
  "    request = urllib.request.Request(url, headers=\x7b\"User-Agent\": " ++
    "\"scrypgen-script/1.0\"\x7d)",
  "    with urllib.request.urlopen(request, timeout=timeout) as response:",
  "        charset = response.headers.get_content_charset() or \"utf-8\"",
  "        return response.read().decode(charset)",
  "",
  "",
  "def main():",
  "    \"\"\"Main execution function.\"\"\"",
  "    if len(sys.argv) < 2:",
  "        logger.error(\"Usage: %s <url>\", sys.argv[0])",
  "        return 1",
  "",
  "    url = sys.argv[1]",
  "    try:",
  "\x7b\x7b main_logic | indent_block(width=8) \x7d\x7d",
  "        body = fetch(url)",
  "        logger.info(\"Received %d characters from %s\", len(body), url)",
  "    except URLError as error:",
  "        logger.error(\"Request failed: %s\", error)",
  "        return 1",
  "    return 0",
  "",
  "",
  "if __name__ == \"__main__\":",
  "    sys.exit(main())"]

def basic : Template where
  name := "python_basic"
  language := .python
  category := Category.basic
  description := "Basic Python script with logging and a main guard"
  content := basicSource
  parameters := [descriptionVariable, importsVariable, mainLogicVariable]
  requirements := []
  compliant := true

def gui : Template where
  name := "python_gui"
  language := .python
  category := Category.gui
  description := "Tkinter desktop application with a dark theme"
  content := guiSource
  parameters := [
    descriptionVariable,
    .withDefault "app_name" .string (.string "Generated App") "Window title and class name",
    .withDefault "features" .array (.strings ["main_window"]) "Feature labels shown in the window",
    importsVariable,
    mainLogicVariable]
  requirements := ["tkinter"]
  compliant := true

def fileProcessing : Template where
  name := "python_file_processing"
  language := .python
  category := Category.fileProcessing
  description := "File and directory processor with per-file error handling"
  content := fileProcessingSource
  parameters := [descriptionVariable, importsVariable, mainLogicVariable]
  requirements := ["os", "logging"]
  compliant := true

def web : Template where
  name := "python_web"
  language := .python
  category := Category.web
  description := "HTTP client script built on the standard library"
  content := webSource
  parameters := [descriptionVariable, importsVariable, mainLogicVariable]
  requirements := ["urllib"]
  compliant := true

end Python

end Scriptwright.Template.Builtin
